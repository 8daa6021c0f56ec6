import RegisterMap.Proofs.Fault
import RegisterMap.Proofs.Reading.Grammar
import RegisterMap.Reading.Device

/-!
# What is accepted

The readers accept what the grammar of descriptions describes, and nothing else. There is one law
for each reader, and it goes along the reader line by line: a member that must be there, one that
may be, a part that is read by another reader. So the law of the whole
(`Device.exists_ofElement_iff`) depends on those of the parts only.
-/

namespace RegisterMap

open Text Xml

/-! ## Parts -/

/-- What follows the last part that is read cannot fail. -/
theorem accepts_last {α β : Type} {first : Except Fault α} {make : α → β} {own : Prop}
    (accepts : Accepts first ↔ own) : Accepts (first >>= fun value => pure (make value)) ↔ own := by
  rw [← accepts]
  exact accepts_fmap

/-- Parts are read when each of them is. -/
theorem accepts_all {α : Type} {read : Element → Except Fault α} {describes : Element → Prop}
    (accepts : ∀ e, Accepts (read e) ↔ describes e) {parts : List Element} :
    Accepts (parts.mapM read) ↔ ∀ e ∈ parts, describes e := by
  rw [accepts_mapM]
  exact forall₂_congr fun e _ => accepts e

/-! ## Texts -/

/-- A text is read as a number if it is a numeral of it, blanks at its ends apart. -/
theorem readNumber_eq_ok {text : String} {n : Nat} :
    readNumber text = .ok n ↔ Scaled (trimChars text.toList) n := by
  rw [← scaled?_eq_some]
  unfold readNumber
  split <;> simp [*]

theorem accepts_readNumber (text : String) : Accepts (readNumber text) ↔ IsNumber text :=
  exists_congr fun _ => readNumber_eq_ok

/-- A text is read as a word exactly if it is one of the vocabulary. -/
theorem accepts_readWord (α : Type) [Vocabulary α] (text : String) :
    Accepts (readWord α text) ↔ IsWord α text := by
  have found : (∃ value, Vocabulary.read? α text = some value) ↔ IsWord α text := by
    rw [← Option.isSome_iff_exists, Vocabulary.read?, List.find?_isSome]
    simp [IsWord, Vocabulary.words]
  rw [← found]
  unfold readWord
  split <;> simp [*]

/-- A text is read as a truth value exactly if it is written as one. -/
theorem accepts_readTruth (text : String) : Accepts (readTruth text) ↔ IsTruth text := by
  unfold readTruth IsTruth
  split
  next yes => rcases yes with rfl | rfl <;> simp
  next notYes =>
    split
    next no => rcases no with rfl | rfl <;> simp
    next notNo => simp_all

/-! ## Members -/

section Members

variable {β : Type} {e : Element} {thing member : String} {own later : Prop}
  {form : String → Prop}

/-- A member that must be there is read if it is there, as it is. -/
theorem required_eq_ok {text : String} :
    e.required thing member = .ok text ↔ e.member? member = some text := by
  unfold Element.required
  split <;> simp [*]

theorem accepts_required : Accepts (e.required thing member) ↔ e.Has member :=
  exists_congr fun _ => required_eq_ok

/-- A member that must be there and is read later. -/
theorem accepts_required_bind {next : String → Except Fault β} :
    Accepts (e.required thing member >>= next) ↔
      ∃ text, e.member? member = some text ∧ Accepts (next text) := by
  simp only [accepts_bind, required_eq_ok]

/-- A member that must be there and is read at once. -/
theorem accepts_read {α : Type} {read : String → Except Fault α} {next : α → Except Fault β}
    (accepts : ∀ text, Accepts (read text) ↔ form text)
    (after : ∀ value, Accepts (next value) ↔ later) :
    Accepts (e.required thing member >>= fun text => read text >>= next) ↔
      e.HasSuch member form ∧ later := by
  simp only [accepts_required_bind, accepts_then (accepts _) after, ← and_assoc, exists_and_right,
    Element.HasSuch]

/-- A member that may be there is read if it is not there or has the right form. -/
theorem accepts_optional {α : Type} {read : String → Except Fault α}
    (accepts : ∀ text, Accepts (read text) ↔ form text) :
    Accepts (e.optional member read) ↔ e.IfHas member form := by
  unfold Element.optional Element.IfHas
  split <;> simp [*]

end Members

/-! ## Fields -/

/-- Digits end where something else than a digit follows. -/
theorem span_digits {digits : List Char} {n : Nat} {c : Char}
    (written : DigitsWrite 10 digits n) (other : isAsciiDigit c = false) (rest : List Char) :
    (digits ++ c :: rest).takeWhile isAsciiDigit = digits ∧
      (digits ++ c :: rest).dropWhile isAsciiDigit = c :: rest := by
  have all := written.isAsciiDigit
  rw [List.takeWhile_append_of_pos all, List.dropWhile_append_of_pos all,
    List.takeWhile_cons_of_neg (by simp [other]), List.dropWhile_cons_of_neg (by simp [other]),
    List.append_nil]
  exact ⟨rfl, rfl⟩

/-- Two positions are read from a text exactly if it writes them. -/
theorem bitPositions?_eq_some {text : List Char} {msb lsb : Nat} :
    bitPositions? text = some (msb, lsb) ↔ PositionsWrite text msb lsb := by
  constructor
  · intro read
    unfold bitPositions? at read
    split at read
    next rest =>
      split at read
      next lower colon =>
        split at read
        next closed =>
          simp only [Option.bind_eq_bind, Option.bind_eq_some_iff, Option.pure_def,
            Option.some.injEq, Prod.mk.injEq] at read
          obtain ⟨_, upperDigits, _, lowerDigits, rfl, rfl⟩ := read
          refine ⟨_, _, ?_, (ofDigits?_eq_some (by decide)).mp upperDigits,
            (ofDigits?_eq_some (by decide)).mp lowerDigits⟩
          -- what was taken off, put together again, is the text
          rw [← closed, List.takeWhile_append_dropWhile, ← colon, List.takeWhile_append_dropWhile]
        · cases read
      · cases read
    · cases read
  · rintro ⟨upper, lower, rfl, upperDigits, lowerDigits⟩
    obtain ⟨front, behind⟩ := span_digits upperDigits (c := ':') rfl (lower ++ [']'])
    obtain ⟨front', behind'⟩ := span_digits lowerDigits (c := ']') rfl []
    simp only [bitPositions?, front, behind, front', behind', if_true,
      (ofDigits?_eq_some (by decide)).mpr upperDigits,
      (ofDigits?_eq_some (by decide)).mpr lowerDigits]
    rfl

namespace BitRange

/-- Two positions are a range if they are in order. -/
theorem ofEnds_eq_ok {msb lsb : Nat} {range : BitRange} :
    ofEnds msb lsb = .ok range ↔ lsb ≤ msb ∧ range = { lsb, msb } := by
  unfold ofEnds
  split
  next below => simp [Nat.not_le.mpr below]
  next above => simp [Nat.not_lt.mp above, eq_comm]

/-- A position and a width are a range if both are numbers and there is a bit. -/
theorem ofWidth_eq_ok {offset width : String} {range : BitRange} :
    ofWidth offset width = .ok range ↔
      ∃ lsb bits : Nat, Scaled (trimChars offset.toList) lsb ∧
        Scaled (trimChars width.toList) bits ∧ 0 < bits ∧
        range = { lsb, msb := (lsb + bits - 1 : Nat) } := by
  simp only [ofWidth, bind_eq_ok, readNumber_eq_ok]
  refine exists_congr fun lsb => ?_
  rw [← exists_and_left]
  refine exists_congr fun bits => and_congr_right fun _ => and_congr_right fun _ => ?_
  split
  next zero => simp [zero]
  next some =>
    have positive : 0 < bits := Nat.pos_of_ne_zero some
    have top : ((lsb + bits - 1 : Nat) : Int) = lsb + bits - 1 := by omega
    rw [top]
    exact ⟨fun same => ⟨positive, (Except.ok.inj same).symm⟩,
      fun ⟨_, same⟩ => congrArg Except.ok same.symm⟩

/-- **Which elements give a range**, and which one: the first way for which all members are
there. -/
theorem ofElement_eq_ok {e : Element} {range : BitRange} :
    ofElement e = .ok range ↔ ∃ lsb msb : Nat, GivesBits e lsb msb ∧ range = { lsb, msb } := by
  constructor
  · intro read
    unfold ofElement at read
    split at read
    next offset width hasOffset hasWidth =>
      obtain ⟨lsb, bits, readsOffset, readsWidth, positive, same⟩ := ofWidth_eq_ok.mp read
      exact ⟨lsb, _, .width hasOffset hasWidth readsOffset readsWidth positive, same⟩
    next incomplete =>
      have noWidth : ¬ (e.Has "bitOffset" ∧ e.Has "bitWidth") := by
        rintro ⟨⟨offset, hasOffset⟩, width, hasWidth⟩
        exact incomplete offset width hasOffset hasWidth
      split at read
      next lower upper hasLower hasUpper =>
        obtain ⟨lsb, readsLower, read⟩ := bind_eq_ok.mp read
        obtain ⟨msb, readsUpper, read⟩ := bind_eq_ok.mp read
        obtain ⟨ascending, same⟩ := ofEnds_eq_ok.mp read
        exact ⟨lsb, msb, .ends noWidth hasLower hasUpper (readNumber_eq_ok.mp readsLower)
          (readNumber_eq_ok.mp readsUpper) ascending, same⟩
      next incomplete =>
        have noEnds : ¬ (e.Has "lsb" ∧ e.Has "msb") := by
          rintro ⟨⟨lower, hasLower⟩, upper, hasUpper⟩
          exact incomplete lower upper hasLower hasUpper
        split at read
        · cases read
        next text hasRange =>
          split at read
          · cases read
          next msb lsb writes =>
            obtain ⟨ascending, same⟩ := ofEnds_eq_ok.mp read
            exact ⟨lsb, msb, .text noWidth noEnds hasRange (bitPositions?_eq_some.mp writes)
              ascending, same⟩
  · rintro ⟨lsb, msb, gives, rfl⟩
    unfold ofElement
    cases gives with
    | width hasOffset hasWidth readsOffset readsWidth positive =>
      simp only [hasOffset, hasWidth]
      exact ofWidth_eq_ok.mpr ⟨_, _, readsOffset, readsWidth, positive, rfl⟩
    | ends noWidth hasLower hasUpper readsLower readsUpper ascending =>
      split
      next hasOffset hasWidth => exact absurd ⟨⟨_, hasOffset⟩, _, hasWidth⟩ noWidth
      next =>
        simp only [hasLower, hasUpper, readNumber_eq_ok.mpr readsLower,
          readNumber_eq_ok.mpr readsUpper]
        exact ofEnds_eq_ok.mpr ⟨ascending, rfl⟩
    | text noWidth noEnds hasRange writes ascending =>
      split
      next hasOffset hasWidth => exact absurd ⟨⟨_, hasOffset⟩, _, hasWidth⟩ noWidth
      next =>
        split
        next hasLower hasUpper => exact absurd ⟨⟨_, hasLower⟩, _, hasUpper⟩ noEnds
        next =>
          simp only [hasRange, bitPositions?_eq_some.mpr writes]
          exact ofEnds_eq_ok.mpr ⟨ascending, rfl⟩

/-- A range is read exactly from an element that gives one. -/
theorem accepts_ofElement (e : Element) :
    Accepts (ofElement e) ↔ ∃ lsb msb, GivesBits e lsb msb := by
  simp only [Accepts, ofElement_eq_ok]
  constructor
  · rintro ⟨_, lsb, msb, gives, _⟩
    exact ⟨lsb, msb, gives⟩
  · rintro ⟨lsb, msb, gives⟩
    exact ⟨_, lsb, msb, gives, rfl⟩

end BitRange

/-- The digits of a pattern are read from a text exactly if it writes them. -/
theorem patternDigits?_eq_some {text digits : List Char} :
    patternDigits? text = some digits ↔ PatternWrites text digits := by
  have allowed : ∀ c, isPatternDigit c = true ↔ c ∈ ['0', '1', 'x', 'X'] := by
    simp [isPatternDigit, or_assoc]
  unfold patternDigits?
  rw [Option.filter_eq_some_iff, patternWrites_iff]
  simp only [Bool.and_eq_true, Bool.not_eq_true', List.isEmpty_eq_false_iff, List.all_eq_true,
    allowed]
  refine and_congr_left fun _ => ?_
  split <;> simp_all

/-- A named value is read exactly from an element that describes one. What follows its name depends
on how it is marked. -/
theorem EnumeratedValue.accepts_ofElement (e : Element) :
    Accepts (ofElement e) ↔ DescribesEnumeratedValue e := by
  rw [describesEnumeratedValue_iff]
  refine accepts_then accepts_required fun name => ?_
  split
  next text marked =>
    have form : e.HasSuch "isDefault" (· ∈ ["true", "false"]) ↔ text = "true" ∨ text = "false" := by
      simp [Element.HasSuch, marked]
    have has : e.Has "isDefault" := ⟨text, marked⟩
    rw [form]
    split
    next known => simp [known]
    next unknown => simp [unknown, has]
  next unmarked =>
    have lacks : ¬ e.Has "isDefault" := fun ⟨_, has⟩ => by cases unmarked.symm.trans has
    have noForm : ¬ e.HasSuch "isDefault" (· ∈ ["true", "false"]) :=
      fun ⟨text, has, _⟩ => lacks ⟨text, has⟩
    simp only [noForm, lacks, not_false_eq_true, true_and, false_or, accepts_required_bind]
    refine exists_congr fun text => and_congr_right fun _ => ?_
    split
    next digits pattern =>
      exact iff_of_true accepts_pure (.inl ⟨digits, patternDigits?_eq_some.mp pattern⟩)
    next none =>
      have noPattern : ¬ IsPattern text := fun ⟨digits, pattern⟩ => by
        cases none.symm.trans (patternDigits?_eq_some.mpr pattern)
      simp [noPattern, accepts_readNumber]

/-- Named values are read exactly from an element each of whose values is described. -/
theorem EnumeratedValues.accepts_ofElement (e : Element) :
    Accepts (ofElement e) ↔ DescribesEnumeratedValues e := by
  rw [describesEnumeratedValues_iff, ← accepts_all EnumeratedValue.accepts_ofElement]
  have usage : Accepts (e.optional "usage" (readWord EnumUsage)) ↔
      e.IfHas "usage" (IsWord EnumUsage) := accepts_optional (accepts_readWord EnumUsage)
  constructor
  · intro accepts
    obtain ⟨values, read, accepts⟩ := accepts_bind.mp accepts
    split at accepts
    · exact absurd accepts accepts_error
    next some =>
      rw [isEmpty_of_mapM_eq_ok read, List.isEmpty_iff] at some
      exact ⟨⟨values, read⟩, some, usage.mp ((accepts_last Iff.rfl).mp accepts)⟩
  · rintro ⟨⟨values, read⟩, some, words⟩
    refine accepts_bind.mpr ⟨values, read, ?_⟩
    rw [isEmpty_of_mapM_eq_ok read, if_neg (by rwa [List.isEmpty_iff])]
    exact (accepts_last Iff.rfl).mpr (usage.mpr words)

theorem Field.accepts_ofElement (e : Element) : Accepts (ofElement e) ↔ DescribesField e := by
  rw [describesField_iff]
  refine accepts_then accepts_required fun _ => ?_
  refine accepts_then (BitRange.accepts_ofElement e) fun _ => ?_
  refine accepts_then (accepts_optional (accepts_readWord Access)) fun _ => ?_
  refine accepts_then (accepts_optional (accepts_readWord ModifiedWriteValues)) fun _ => ?_
  refine accepts_then (accepts_optional (accepts_readWord ReadAction)) fun _ => ?_
  refine accepts_last (accepts_all EnumeratedValues.accepts_ofElement)

/-! ## Registers and clusters -/

theorem RegisterProperties.accepts_ofElement (e : Element) :
    Accepts (ofElement e) ↔ SetsProperties e := by
  rw [setsProperties_iff]
  refine accepts_then (accepts_optional accepts_readNumber) fun _ => ?_
  refine accepts_then (accepts_optional (accepts_readWord Access)) fun _ => ?_
  refine accepts_then (accepts_optional (accepts_readWord Protection)) fun _ => ?_
  refine accepts_then (accepts_optional accepts_readNumber) fun _ => ?_
  exact accepts_last (accepts_optional accepts_readNumber)

theorem Dimension.accepts_ofElement (e : Element) :
    Accepts (ofElement e) ↔ SetsDimension e := by
  rw [setsDimension_iff]
  refine accepts_then (accepts_optional accepts_readNumber) fun _ => ?_
  exact accepts_last (accepts_optional accepts_readNumber)

/-- A list of fields is read if each field in it is described, and so is none at all. -/
theorem Field.accepts_listOfElement (e : Element) :
    Accepts (listOfElement e) ↔ ∀ list, e.child? "fields" = some list →
      ∀ child ∈ list.childrenTagged "field", DescribesField child := by
  unfold listOfElement
  cases e.child? "fields" with
  | none => exact iff_of_true accepts_ok nofun
  | some list =>
    simp only [accepts_map, accepts_all Field.accepts_ofElement, Option.some.injEq, forall_eq']

/-- A register is read exactly from an element that describes one, each of its fields included. -/
theorem Register.accepts_ofElement (e : Element) :
    Accepts (ofElement e) ↔ DescribesRegister e := by
  rw [describesRegister_iff]
  refine accepts_then accepts_required fun _ => ?_
  refine accepts_read accepts_readNumber fun _ => ?_
  refine accepts_then (Field.accepts_listOfElement e) fun _ => ?_
  refine accepts_then (Dimension.accepts_ofElement e) fun _ => ?_
  refine accepts_then (RegisterProperties.accepts_ofElement e) fun _ => ?_
  refine accepts_then (accepts_optional (accepts_readWord DataType)) fun _ => ?_
  refine accepts_then (accepts_optional (accepts_readWord ModifiedWriteValues)) fun _ => ?_
  exact accepts_last (accepts_optional (accepts_readWord ReadAction))

namespace Node

/-- A cluster is read if it is described itself, and what is in it is read. -/
theorem accepts_clusterOf (e : Element) {nodes : Except Fault (List Node)} {inside : Prop}
    (accepts : Accepts nodes ↔ inside) :
    Accepts (clusterOf e nodes) ↔ DescribesCluster e ∧ inside := by
  have parts : Accepts (clusterOf e nodes) ↔ e.Has "name" ∧ e.HasSuch "addressOffset" IsNumber ∧
      inside ∧ SetsDimension e ∧ SetsProperties e := by
    refine accepts_then accepts_required fun _ => ?_
    refine accepts_read accepts_readNumber fun _ => ?_
    refine accepts_then accepts fun _ => ?_
    refine accepts_then (Dimension.accepts_ofElement e) fun _ => ?_
    exact accepts_last (RegisterProperties.accepts_ofElement e)
  rw [parts, describesCluster_iff]
  tauto

mutual

/-- A node is read exactly from an element that describes one, at any depth. -/
theorem accepts_ofElement : ∀ e : Element, Accepts (ofElement e) ↔ DescribesNode e
  | ⟨tag, attributes, text, children⟩ => by
    rw [ofElement]
    by_cases register : tag = "register"
    · rw [if_pos register, accepts_map, Register.accepts_ofElement]
      refine ⟨.register register, fun described => ?_⟩
      cases described with
      | register _ described => exact described
      | cluster tagged => exact absurd (register.symm.trans tagged) (by decide)
    · rw [if_neg register]
      by_cases cluster : tag = "cluster"
      · rw [if_pos cluster, accepts_clusterOf _ (accepts_ofChildren children)]
        refine ⟨fun ⟨described, nodes⟩ => .cluster cluster described nodes, fun described => ?_⟩
        cases described with
        | register tagged => exact absurd tagged register
        | cluster _ described nodes => exact ⟨described, nodes⟩
      · rw [if_neg cluster]
        refine iff_of_false accepts_error fun described => ?_
        cases described with
        | register tagged => exact register tagged
        | cluster tagged => exact cluster tagged

/-- Nodes are read from the children that are tagged as nodes. Other children do not matter. -/
theorem accepts_ofChildren : ∀ children : List Element,
    Accepts (ofChildren children) ↔ ∀ child ∈ children, IsNodeTagged child → DescribesNode child
  | [] => iff_of_true accepts_ok nofun
  | e :: rest => by
    rw [ofChildren, List.forall_mem_cons]
    split
    next tagged =>
      rw [forall_prop_of_true (show IsNodeTagged e from tagged)]
      refine accepts_then (accepts_ofElement e) fun _ => ?_
      exact accepts_last (accepts_ofChildren rest)
    next other =>
      have untagged : ¬ IsNodeTagged e := other
      rw [accepts_ofChildren rest, forall_prop_of_false untagged, true_and]

end

/-- A list of nodes is read if each child of it is described, and so is none at all. -/
theorem accepts_listOfElement (e : Element) :
    Accepts (listOfElement e) ↔ ∀ list, e.child? "registers" = some list →
      ∀ child ∈ list.children, DescribesNode child := by
  unfold listOfElement
  cases e.child? "registers" with
  | none => exact iff_of_true accepts_ok nofun
  | some list =>
    simp only [accepts_map, accepts_all accepts_ofElement, Option.some.injEq, forall_eq']

end Node

/-! ## Peripherals and devices -/

/-- The members of an address block are all looked for before one of them is read. -/
theorem AddressBlock.accepts_ofElement (e : Element) :
    Accepts (ofElement e) ↔ DescribesAddressBlock e := by
  have reads (offset size usage : String) :
      Accepts (do
        let offset ← readNumber offset
        let size ← readNumber size
        let usage ← readWord AddressBlockUsage usage
        let protection ← e.optional "protection" (readWord Protection)
        return ({ offset, size, usage, protection } : AddressBlock)) ↔
      IsNumber offset ∧ IsNumber size ∧ IsWord AddressBlockUsage usage ∧
        e.IfHas "protection" (IsWord Protection) := by
    refine accepts_then (accepts_readNumber offset) fun _ => ?_
    refine accepts_then (accepts_readNumber size) fun _ => ?_
    refine accepts_then (accepts_readWord AddressBlockUsage usage) fun _ => ?_
    exact accepts_last (accepts_optional (accepts_readWord Protection))
  rw [describesAddressBlock_iff]
  unfold ofElement
  simp only [accepts_required_bind, reads]
  constructor
  · rintro ⟨offset, hasOffset, size, hasSize, usage, hasUsage, isOffset, isSize, isUsage, words⟩
    exact ⟨⟨offset, hasOffset, isOffset⟩, ⟨size, hasSize, isSize⟩, ⟨usage, hasUsage, isUsage⟩,
      words⟩
  · rintro ⟨⟨offset, hasOffset, isOffset⟩, ⟨size, hasSize, isSize⟩, ⟨usage, hasUsage, isUsage⟩,
      words⟩
    exact ⟨offset, hasOffset, size, hasSize, usage, hasUsage, isOffset, isSize, isUsage, words⟩

theorem Interrupt.accepts_ofElement (e : Element) :
    Accepts (ofElement e) ↔ DescribesInterrupt e := by
  rw [describesInterrupt_iff]
  refine accepts_then accepts_required fun _ => ?_
  exact (accepts_read accepts_readNumber fun _ => iff_true_intro accepts_pure).trans
    (and_iff_left trivial)

theorem Peripheral.accepts_ofElement (e : Element) :
    Accepts (ofElement e) ↔ DescribesPeripheral e := by
  rw [describesPeripheral_iff]
  refine accepts_then accepts_required fun _ => ?_
  refine accepts_read accepts_readNumber fun _ => ?_
  refine accepts_then (Node.accepts_listOfElement e) fun _ => ?_
  refine accepts_then (Dimension.accepts_ofElement e) fun _ => ?_
  refine accepts_then (RegisterProperties.accepts_ofElement e) fun _ => ?_
  refine accepts_then (accepts_all AddressBlock.accepts_ofElement) fun _ => ?_
  exact accepts_last (accepts_all Interrupt.accepts_ofElement)

theorem Cpu.accepts_ofElement (e : Element) : Accepts (ofElement e) ↔ DescribesCpu e := by
  rw [describesCpu_iff]
  refine accepts_then accepts_required fun _ => ?_
  refine accepts_then accepts_required fun _ => ?_
  refine accepts_read (accepts_readWord Endian) fun _ => ?_
  refine accepts_then (accepts_optional accepts_readTruth) fun _ => ?_
  refine accepts_then (accepts_optional accepts_readTruth) fun _ => ?_
  refine accepts_then (accepts_optional accepts_readNumber) fun _ => ?_
  exact accepts_last (accepts_optional accepts_readTruth)

namespace Device

theorem accepts_cpuOfElement (e : Element) :
    Accepts (cpuOfElement e) ↔ ∀ cpu, e.child? "cpu" = some cpu → DescribesCpu cpu := by
  unfold cpuOfElement
  cases e.child? "cpu" with
  | none => exact iff_of_true accepts_ok nofun
  | some cpu => simp only [accepts_map, Cpu.accepts_ofElement, Option.some.injEq, forall_eq']

/-- The list of peripherals is the first child that is tagged as one. -/
theorem peripheralList_eq_ok {e list : Element} :
    peripheralList e = .ok list ↔ e.child? "peripherals" = some list := by
  unfold peripheralList
  split <;> simp [*]

/-- **What is accepted.** An element is read as a device exactly when it describes one. -/
theorem exists_ofElement_iff (e : Element) :
    (∃ d, ofElement e = .ok d) ↔ DescribesDevice e := by
  rw [describesDevice_iff]
  refine accepts_then accepts_required fun _ => ?_
  refine accepts_then accepts_required fun _ => ?_
  refine accepts_then accepts_required fun _ => ?_
  refine accepts_read accepts_readNumber fun _ => ?_
  refine accepts_read accepts_readNumber fun _ => ?_
  -- the list is looked for before the parts are read, and read after them
  have parts (list : Element) {make : Option Cpu → RegisterProperties → List Peripheral → Device} :
      Accepts (do
        let cpu ← cpuOfElement e
        let properties ← RegisterProperties.ofElement e
        let peripherals ← (list.childrenTagged "peripheral").mapM Peripheral.ofElement
        return make cpu properties peripherals) ↔
      (∀ cpu, e.child? "cpu" = some cpu → DescribesCpu cpu) ∧ SetsProperties e ∧
        ∀ child ∈ list.childrenTagged "peripheral", DescribesPeripheral child := by
    refine accepts_then (accepts_cpuOfElement e) fun _ => ?_
    refine accepts_then (RegisterProperties.accepts_ofElement e) fun _ => ?_
    exact accepts_last (accepts_all Peripheral.accepts_ofElement)
  rw [accepts_bind]
  constructor
  · rintro ⟨list, has, accepts⟩
    obtain ⟨cpu, properties, peripherals⟩ := (parts list).mp accepts
    exact ⟨cpu, properties, list, peripheralList_eq_ok.mp has, peripherals⟩
  · rintro ⟨cpu, properties, list, has, peripherals⟩
    exact ⟨list, peripheralList_eq_ok.mpr has, (parts list).mpr ⟨cpu, properties, peripherals⟩⟩

end Device

end RegisterMap
