import RegisterMap.Proofs.Code.Layout
import RegisterMap.Proofs.Text.Plain

/-!
# Lines, blocks and descriptions that are laid out

A text that closes the braces that it opens is a line that may stand at any depth
(`Reads.ofClosed`). A block is laid out when its body is (`Reads.block`), and so are two
alternatives, the second of which begins on the line that ends the first. A description stands
inside a literal. Whatever it holds, reading passes over it (`outsideBehind?_escape`), so it is
one line that leads nowhere else (`reads_doc`).
-/

namespace RegisterMap.Text

/-! ## Texts in a line -/

/-- A text has no line break and no quote, and closes the braces that it opens. -/
structure IsClosed (text : String) : Prop where
  single : '\n' ∉ text.toList
  noQuote : '\x22' ∉ text.toList
  leads : ∀ depth, Leads depth text.toList depth

/-- A plain text has no braces at all, so it closes those that it opens. -/
theorem isClosed_of_isPlain {text : String} (plain : isPlain text = true) : IsClosed text where
  single := not_mem_of_isPlain plain rfl
  noQuote := not_mem_of_isPlain plain rfl
  leads := leads_of_not_mem (not_mem_of_isPlain plain rfl) (not_mem_of_isPlain plain rfl)

/-- Closed texts make a closed text. -/
theorem IsClosed.append {front back : String} (h : IsClosed front) (h' : IsClosed back) :
    IsClosed (front ++ back) where
  single := by
    rw [String.toList_append, List.mem_append]
    exact not_or.mpr ⟨h.single, h'.single⟩
  noQuote := by
    rw [String.toList_append, List.mem_append]
    exact not_or.mpr ⟨h.noQuote, h'.noQuote⟩
  leads depth := by
    rw [String.toList_append]
    exact (h.leads depth).append (h'.leads depth)

/-- A text in braces. -/
theorem IsClosed.braces {inside : String} (h : IsClosed inside) :
    IsClosed ("\x7b" ++ inside ++ "\x7d") where
  single := by simpa using h.single
  noQuote := by simpa using h.noQuote
  leads depth := by
    have whole := ((leads_opening depth).append (h.leads (depth + 1))).append (leads_closing depth)
    simpa using whole

/-- Whether a text begins like a line of code that is no attribute and closes no block. -/
def beginsLine (text : String) : Bool :=
  text.toList.head?.any fun c => c ≠ ' ' && c ≠ '\x7d' && c ≠ '#'

@[simp]
theorem beginsLine_append {front : String} (h : beginsLine front = true) (back : String) :
    beginsLine (front ++ back) = true := by
  rw [beginsLine, String.toList_append, List.head?_append]
  cases first : front.toList.head? with
  | none =>
    rw [beginsLine, first] at h
    cases h
  | some c => rwa [beginsLine, first] at h

/-- A name in front of what begins a line begins a line, even if the name is empty. -/
theorem beginsLine_of_isName {front back : String} (name : isName front = true)
    (begins : beginsLine back = true) : beginsLine (front ++ back) = true := by
  rw [beginsLine, String.toList_append, List.head?_append]
  cases same : front.toList with
  | nil => exact begins
  | cons c rest =>
    have own : isNameChar c = true := List.all_eq_true.mp name c (same ▸ List.mem_cons_self)
    simp [ne_of_isNameChar own (by decide : isNameChar ' ' = false),
      ne_of_isNameChar own (by decide : isNameChar '\x7d' = false),
      ne_of_isNameChar own (by decide : isNameChar '#' = false)]

/-- What begins a line has a first character, which is no blank, no closing brace and no number
sign. -/
theorem exists_of_beginsLine {text : String} (h : beginsLine text = true) :
    ∃ c rest, text.toList = c :: rest ∧ c ≠ ' ' ∧ c ≠ '\x7d' ∧ c ≠ '#' := by
  rw [beginsLine] at h
  cases same : text.toList with
  | nil =>
    rw [same] at h
    cases h
  | cons c rest =>
    rw [same] at h
    simp only [List.head?_cons, Option.any_some, Bool.and_eq_true, decide_eq_true_eq] at h
    exact ⟨c, rest, rfl, h.1.1, h.1.2, h.2⟩

/-! ## Lines and blocks -/

/-- A text that begins a line is one at the depth at which it stands, wherever its braces lead. -/
theorem lineAt_of_beginsLine {text : String} {depth depth' : Nat} (begins : beginsLine text = true)
    (single : '\n' ∉ text.toList) (noQuote : '\x22' ∉ text.toList)
    (leads : Leads depth text.toList depth') : LineAt depth depth text depth' where
  single := single
  begins := by
    obtain ⟨c, rest, same, notBlank, notClosing, _⟩ := exists_of_beginsLine begins
    exact ⟨c, rest, same, notBlank, by rw [if_neg notClosing, Nat.add_zero]⟩
  reads := ⟨text.toList, outside?_of_not_mem noQuote, leads⟩

/-- A line that begins a block. -/
theorem lineAt_opening {header : String} (plain : isPlain header = true)
    (begins : beginsLine header = true) : LineAt 0 0 (Code.opening header) 1 := by
  have closed := isClosed_of_isPlain plain
  have written : (Code.opening header).toList = header.toList ++ [' ', '\x7b'] := by
    simp [Code.opening]
  refine lineAt_of_beginsLine (beginsLine_append begins _) ?_ ?_ ?_
  · simpa [written] using closed.single
  · simpa [written] using closed.noQuote
  · have blank : Leads 0 [' '] 0 := leads_of_not_mem (by decide) (by decide) 0
    rw [written]
    exact (closed.leads 0).append (blank.append (leads_opening 0))

/-- A line that begins by closing a brace, and may open another. -/
theorem lineAt_closes {text : String} {back : List Char} {depth' : Nat}
    (written : text.toList = '\x7d' :: back) (single : '\n' ∉ back) (noQuote : '\x22' ∉ back)
    (leads : Leads 0 back depth') : LineAt 1 0 text depth' where
  single := by simpa [written] using single
  begins := ⟨_, back, written, by decide, rfl⟩
  reads := by
    refine ⟨text.toList, outside?_of_not_mem (by simpa [written] using noQuote), ?_⟩
    rw [written]
    exact (leads_closing 0).append leads

namespace Reads

/-- A line without blanks in front leads where its text does. -/
theorem line {depth depth' : Nat} {text : String} (h : LineAt depth 0 text depth') :
    Reads depth [text] depth' := by
  have one := Reads.cons h (.nil depth')
  rwa [Code.indented_zero] at one

/-- A line without quotes that closes the braces that it opens. -/
theorem ofClosed {text : String} (closed : IsClosed text) (begins : beginsLine text = true) :
    Reads 0 [text] 0 :=
  line (lineAt_of_beginsLine begins closed.single closed.noQuote (closed.leads 0))

theorem closing : Reads 1 [Code.closing] 0 :=
  line (lineAt_closes rfl List.not_mem_nil List.not_mem_nil (leads_nil 0))

/-- A block is laid out when its body is. -/
theorem block {header : String} {body : List String} (plain : isPlain header = true)
    (begins : beginsLine header = true) (h : Reads 0 body 0) :
    Reads 0 (Code.opening header :: (body.map (Code.indented 1) ++ [Code.closing])) 0 := by
  have first : Reads 0 [Code.opening header] 1 := line (lineAt_opening plain begins)
  exact first.append ((h.deeper 1).append closing)

end Reads

/-! ## Lines without descriptions -/

/-- Lines lead back to the depth at which they began, and none of them gives a description. -/
structure Statements (lines : List String) : Prop where
  reads : Reads 0 lines 0
  notDoc : ∀ line ∈ lines, isDocLine line.toList = false

/-- What begins a line of code gives no description. -/
theorem isDocLine_of_beginsLine {text : String} (begins : beginsLine text = true) :
    isDocLine text.toList = false := by
  obtain ⟨c, rest, same, notBlank, _, notHash⟩ := exists_of_beginsLine begins
  have other : ('#' == c) = false := beq_false_of_ne (Ne.symm notHash)
  simp [isDocLine, same, notBlank, List.isPrefixOf, other]

namespace Statements

variable {front back : List String}

theorem nil : Statements [] where
  reads := .nil 0
  notDoc _ mem := absurd mem List.not_mem_nil

/-- Statements behind statements are statements. -/
theorem append (h : Statements front) (h' : Statements back) : Statements (front ++ back) where
  reads := h.reads.append h'.reads
  notDoc := List.forall_mem_append.mpr ⟨h.notDoc, h'.notDoc⟩

/-- A closed text that begins a line is a statement. -/
theorem ofClosed {text : String} (closed : IsClosed text) (begins : beginsLine text = true) :
    Statements [text] where
  reads := .ofClosed closed begins
  notDoc := List.forall_mem_singleton.mpr (isDocLine_of_beginsLine begins)

/-- A plain text that begins a line is a statement. -/
theorem ofPlain {text : String} (plain : isPlain text = true) (begins : beginsLine text = true) :
    Statements [text] :=
  ofClosed (isClosed_of_isPlain plain) begins

/-- Statements give no descriptions when they are indented either. -/
theorem notDoc_indented (h : Statements front) :
    ∀ line ∈ front.map (Code.indented 1), isDocLine line.toList = false := by
  refine List.forall_mem_map.mpr ?_
  intro line mem
  rw [isDocLine_indented]
  exact h.notDoc line mem

/-- A block of statements. -/
theorem block {header : String} (plain : isPlain header = true) (begins : beginsLine header = true)
    (h : Statements front) :
    Statements (Code.opening header :: (front.map (Code.indented 1) ++ [Code.closing])) where
  reads := .block plain begins h.reads
  notDoc := List.forall_mem_cons.mpr ⟨isDocLine_of_beginsLine (beginsLine_append begins _),
    List.forall_mem_append.mpr ⟨h.notDoc_indented, List.forall_mem_singleton.mpr rfl⟩⟩

/-- Of two alternatives, the second begins on the line on which the first ends. -/
theorem alternatives {header : String} (plain : isPlain header = true)
    (begins : beginsLine header = true) (h : Statements front) (h' : Statements back) :
    Statements (Code.opening header :: (front.map (Code.indented 1) ++
      Code.opening (Code.closing ++ " else") :: (back.map (Code.indented 1) ++ [Code.closing])))
      where
  reads := by
    have first : Reads 0 [Code.opening header] 1 := .line (lineAt_opening plain begins)
    have between : Reads 1 [Code.opening (Code.closing ++ " else")] 1 := by
      have words : Leads 0 " else ".toList 0 := leads_of_not_mem (by decide) (by decide) 0
      exact .line (lineAt_closes rfl (by decide) (by decide) (words.append (leads_opening 0)))
    exact first.append ((h.reads.deeper 1).append
      (between.append ((h'.reads.deeper 1).append .closing)))
  notDoc := List.forall_mem_cons.mpr ⟨isDocLine_of_beginsLine (beginsLine_append begins _),
    List.forall_mem_append.mpr ⟨h.notDoc_indented, List.forall_mem_cons.mpr ⟨rfl,
      List.forall_mem_append.mpr ⟨h'.notDoc_indented, List.forall_mem_singleton.mpr rfl⟩⟩⟩⟩

end Statements

/-! ## Attributes and descriptions -/

/-- The inside of a literal leads to its end. -/
theorem outsideBehind?_escape (text back : List Char) :
    outsideBehind? (escape text ++ back) = outsideBehind? back := by
  induction text with
  | nil => rfl
  | cons c rest ih =>
    rw [escape]
    split
    · simp only [List.cons_append, outsideBehind?, ih]
    · next other =>
      obtain ⟨notBackslash, notQuote⟩ := not_or.mp other
      rw [List.cons_append, outsideBehind?.eq_4 _ _ (fun same => absurd same notBackslash)
        (fun _ _ same => absurd same notBackslash), if_neg notQuote, ih]

/-- An attribute is a statement if it is not the one that gives a description. -/
theorem statements_attribute {text : String} (plain : isPlain text = true)
    (other : isDocLine ("#[" ++ text ++ "]").toList = false) :
    Statements ["#[" ++ text ++ "]"] := by
  have closed : IsClosed ("#[" ++ text ++ "]") :=
    isClosed_of_isPlain (by simp [plain]; decide)
  refine ⟨.line ⟨closed.single, ⟨'#', _, by simp; rfl, by decide, rfl⟩, _,
    outside?_of_not_mem closed.noQuote, closed.leads 0⟩, List.forall_mem_singleton.mpr other⟩

/-- The line of a description leads nowhere, whatever the description holds. -/
theorem reads_doc (description : String) :
    Reads 0 ["#[doc = \"" ++ docText description ++ "\"]"] 0 := by
  have written : ("#[doc = \"" ++ docText description ++ "\"]").toList =
      "#[doc = ".toList ++ '\x22' :: ((docText description).toList ++ ['\x22', ']']) := by
    simp
  have read : outside? ("#[doc = \"" ++ docText description ++ "\"]").toList =
      some ("#[doc = ".toList ++ [']']) := by
    have behind : outsideBehind? ((docText description).toList ++ ['\x22', ']']) = some [']'] := by
      rw [docText, String.toList_ofList, outsideBehind?_escape]
      rfl
    rw [written, outside?_append (by decide), outside?, if_pos rfl, behind, Option.map_some]
  refine .line ⟨?_, ⟨'#', _, written, by decide, rfl⟩, _, read,
    leads_of_not_mem (by decide) (by decide) 0⟩
  have inside := not_mem_docText description
  rw [written]
  simp [inside]

end RegisterMap.Text
