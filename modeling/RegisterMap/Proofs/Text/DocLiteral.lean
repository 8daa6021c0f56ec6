import RegisterMap.Code.Item
import RegisterMap.Proofs.Text.Plain

/-!
# Descriptions are read back

What words a text has is said here without taking it apart (`FallsInto`), and there is one way to
take it apart (`fallsInto_iff`). A description that stands in a literal is read back as its words
with single spaces between them, because `unescape` undoes `escape`. Whatever `unescape` can read
ends where its literal does (`literal?_append`), so no description leaves its literal
(`docText_readBack`).
-/

namespace RegisterMap.Text

/-! ## Words -/

/-- A text falls into words, its longest runs of characters that are not blank. In front of each of
them, and behind the last one, there is nothing but blank characters. -/
inductive FallsInto : List Char → List (List Char) → Prop
  | none {gap : List Char} (blank : ∀ c ∈ gap, isBlank c = true) : FallsInto gap []
  | word {gap word rest : List Char} {later : List (List Char)}
      (blank : ∀ c ∈ gap, isBlank c = true) (written : word ≠ [])
      (visible : ∀ c ∈ word, isBlank c = false) (ends : ∀ c ∈ rest.head?, isBlank c = true)
      (others : FallsInto rest later) : FallsInto (gap ++ (word ++ rest)) (word :: later)

section Words

variable {gap word rest text : List Char} {found : List (List Char)}

/-- A word ends in front of a blank character, or where the text does. -/
theorem atWordEnd_iff : atWordEnd rest = true ↔ ∀ c ∈ rest.head?, isBlank c = true := by
  cases rest <;> simp [atWordEnd]

/-- Blank characters in front of a text change none of its words. -/
theorem words_append_of_blank (blank : ∀ c ∈ gap, isBlank c = true) (rest : List Char) :
    words (gap ++ rest) = words rest := by
  induction gap with
  | nil => rfl
  | cons c others ih =>
    obtain ⟨first, blank⟩ := List.forall_mem_cons.mp blank
    rw [List.cons_append, words, if_pos first, ih blank]

/-- Characters that are not blank make one word, up to the next blank character. -/
theorem words_append_of_visible (written : word ≠ []) (visible : ∀ c ∈ word, isBlank c = false)
    (ends : atWordEnd rest = true) : words (word ++ rest) = word :: words rest := by
  induction word with
  | nil => exact absurd rfl written
  | cons c others ih =>
    obtain ⟨first, visible⟩ := List.forall_mem_cons.mp visible
    rw [List.cons_append, words, if_neg (Bool.eq_false_iff.mp first)]
    cases others with
    | nil => rw [List.nil_append, if_pos ends]
    | cons d others =>
      have inside : atWordEnd (d :: others ++ rest) = false := visible d List.mem_cons_self
      rw [if_neg (Bool.eq_false_iff.mp inside), ih (List.cons_ne_nil d others) visible]

/-- There is one way to fall into words. -/
theorem FallsInto.eq_words (h : FallsInto text found) : found = words text := by
  induction h with
  | none blank =>
    have gapOnly := words_append_of_blank blank []
    rw [List.append_nil] at gapOnly
    exact gapOnly.symm
  | word blank written visible ends _ ih =>
    rw [words_append_of_blank blank,
      words_append_of_visible written visible (atWordEnd_iff.mpr ends), ← ih]

theorem FallsInto.cons_blank {c : Char} (blank : isBlank c = true) (h : FallsInto text found) :
    FallsInto (c :: text) found := by
  cases h with
  | none gap => exact .none (List.forall_mem_cons.mpr ⟨blank, gap⟩)
  | word gap written visible ends others =>
    exact .word (List.forall_mem_cons.mpr ⟨blank, gap⟩) written visible ends others

/-- A character in front of a word belongs to the word. -/
theorem FallsInto.cons_visible {c : Char} (visible : isBlank c = false)
    (inside : atWordEnd text = false) (h : FallsInto text found) :
    ∃ word later, found = word :: later ∧ FallsInto (c :: text) ((c :: word) :: later) := by
  -- the text goes on with a visible character, so it begins with a word
  have begins : ∃ d, text.head? = some d ∧ isBlank d = false := by
    cases text with
    | nil => cases inside
    | cons d _ => exact ⟨d, rfl, inside⟩
  obtain ⟨d, head, notBlank⟩ := begins
  cases h with
  | none gap =>
    rw [gap d (List.mem_of_mem_head? head)] at notBlank
    cases notBlank
  | @word gap word rest later blank written own ends others =>
    cases gap with
    | nil =>
      have longer : ∀ d ∈ c :: word, isBlank d = false := List.forall_mem_cons.mpr ⟨visible, own⟩
      exact ⟨word, later, rfl,
        @FallsInto.word [] (c :: word) rest _ nofun (List.cons_ne_nil c word) longer ends others⟩
    | cons e more =>
      cases head
      rw [blank d List.mem_cons_self] at notBlank
      cases notBlank

/-- Every text falls into its words. -/
theorem fallsInto_words (text : List Char) : FallsInto text (words text) := by
  induction text with
  | nil => exact .none nofun
  | cons c rest ih =>
    rw [words]
    split
    next blank => exact ih.cons_blank blank
    next notBlank =>
      have visible : isBlank c = false := Bool.eq_false_iff.mpr notBlank
      split
      next ends =>
        exact @FallsInto.word [] [c] rest _ nofun (List.cons_ne_nil c [])
          (List.forall_mem_singleton.mpr visible) (atWordEnd_iff.mp ends) ih
      next inside =>
        obtain ⟨word, later, same, longer⟩ :=
          ih.cons_visible visible (Bool.eq_false_iff.mpr inside)
        rw [same]
        exact longer

/-- **A text falls into its words** and into nothing else. -/
theorem fallsInto_iff : FallsInto text found ↔ found = words text :=
  ⟨FallsInto.eq_words, fun same => same ▸ fallsInto_words text⟩

end Words

/-! ## Literals -/

/-- The inside of a string literal, and what stands behind the literal. The text begins behind the
quote that opens it. It is closed by the first quote that is not the character behind a
backslash. -/
def literal? : List Char → Option (List Char × List Char)
  | [] => none
  | c :: rest =>
    if c = '\x22' then some ([], rest)
    else if c = '\x5c' then
      match rest with
      | [] => none
      | escaped :: later =>
        (literal? later).map fun (inside, behind) => (c :: escaped :: inside, behind)
    else (literal? rest).map fun (inside, behind) => (c :: inside, behind)

section Literals

variable {c : Char} {inside text : List Char}

theorem unescape_cons_of_plain (notBackslash : c ≠ '\x5c') (notQuote : c ≠ '\x22')
    (rest : List Char) : unescape (c :: rest) = (unescape rest).map (c :: ·) := by
  cases rest <;> simp [unescape, notBackslash, notQuote]

/-- A text with other characters in the place of one. -/
def replaced (old : Char) (new text : List Char) : List Char :=
  text.flatMap fun c => if c = old then new else [c]

/-- Escaping replaces each backslash and then each quote. The other way round, the backslashes that
stand in front of quotes would be doubled. -/
theorem escape_eq_replaced (text : List Char) :
    escape text = replaced '\x22' ['\x5c', '\x22'] (replaced '\x5c' ['\x5c', '\x5c'] text) := by
  induction text with
  | nil => rfl
  | cons c rest ih =>
    rw [escape, ih]
    by_cases backslash : c = '\x5c'
    · simp [replaced, backslash]
    · by_cases quote : c = '\x22' <;> simp [replaced, backslash, quote]

/-- **Escaping is undone.** -/
theorem unescape_escape (text : List Char) : unescape (escape text) = some text := by
  induction text with
  | nil => rfl
  | cons c rest ih =>
    rw [escape]
    split
    next special => rw [unescape, if_pos rfl, if_pos special, ih, Option.map_some]
    next plain =>
      obtain ⟨notBackslash, notQuote⟩ := not_or.mp plain
      rw [unescape_cons_of_plain notBackslash notQuote, ih, Option.map_some]

@[simp]
theorem literal?_quote (behind : List Char) :
    literal? ('\x22' :: behind) = some ([], behind) := by
  cases behind <;> rfl

/-- A character behind a backslash does not close a literal. -/
theorem literal?_escaped (c : Char) (rest : List Char) :
    literal? ('\x5c' :: c :: rest) =
      (literal? rest).map fun (inside, behind) => ('\x5c' :: c :: inside, behind) := by
  rw [literal?, if_neg (by decide), if_pos rfl]

/-- Other characters stand inside a literal as they are. -/
theorem literal?_cons_of_plain (notBackslash : c ≠ '\x5c') (notQuote : c ≠ '\x22')
    (rest : List Char) : literal? (c :: rest) =
      (literal? rest).map fun (inside, behind) => (c :: inside, behind) := by
  cases rest <;> simp [literal?, notBackslash, notQuote]

/-- A literal whose inside can be read is closed behind it. -/
theorem literal?_append (reads : unescape inside = some text) (behind : List Char) :
    literal? (inside ++ '\x22' :: behind) = some (inside, behind) := by
  fun_induction unescape inside generalizing text with
  | case1 => exact literal?_quote behind
  | case2 => cases reads
  | case3 c plain =>
    obtain ⟨notBackslash, notQuote⟩ := not_or.mp plain
    rw [List.singleton_append, literal?_cons_of_plain notBackslash notQuote, literal?_quote]
    rfl
  | case4 d rest special ih =>
    obtain ⟨_, reads, _⟩ := Option.map_eq_some_iff.mp reads
    rw [List.cons_append, List.cons_append, literal?_escaped, ih reads]
    rfl
  | case5 => cases reads
  | case6 => cases reads
  | case7 c d rest notBackslash notQuote ih =>
    obtain ⟨_, reads, _⟩ := Option.map_eq_some_iff.mp reads
    rw [List.cons_append, literal?_cons_of_plain notBackslash notQuote, ih reads]
    rfl

end Literals

/-! ## Descriptions -/

/-- What stands in the literal of a description is its words with single spaces between them. -/
theorem unescape_docText (text : String) :
    unescape (docText text).toList = some (singleSpaced text.toList) := by
  rw [docText, String.toList_ofList, unescape_escape]

/-- **A description is read back and stays in its literal.** A text has words in one way only. The
inside of the literal is read without a fault, and it stands for these words with single spaces
between them. There is no other blank character in it, so no line break. The attribute that is
written for the description, at any depth, is one line, and the literal that begins on it ends at
the last quote. -/
theorem docText_readBack (text : String) :
    (∃ found, (∀ other, FallsInto text.toList other ↔ other = found) ∧
        unescape (docText text).toList = some ([' '].intercalate found)) ∧
      (∀ c ∈ (docText text).toList, isBlank c = true → c = ' ') ∧
      '\n' ∉ (docText text).toList ∧
      ∀ depth, ∃ line behind, (Item.doc text).code.linesAt depth = [line] ∧
        line.toList = List.replicate (4 * depth) ' ' ++ ("#[doc = \"".toList ++ behind) ∧
        literal? behind = some ((docText text).toList, [']']) := by
  refine ⟨⟨words text.toList, fun _ => fallsInto_iff, unescape_docText text⟩,
    fun _ => eq_space_of_mem_docText, not_mem_docText text, fun depth => ?_⟩
  have written : "#[doc = \"" ++ docText text ++ "\"]" ≠ "" := by simp
  refine ⟨_, (docText text).toList ++ ['\x22', ']'], rfl, ?_,
    literal?_append (unescape_docText text) [']']⟩
  simp [Code.indented, written, Code.indentation]

/-- A quote, a backslash at the end and several kinds of blank characters. -/
def awkwardText : String := "a\t \n\"b\\\u2028"

/-- A quote, a backslash at the end, and blank characters that are no spaces. -/
theorem docText_readBack_awkward :
    FallsInto awkwardText.toList ["a".toList, "\"b\\".toList] ∧
      unescape (docText awkwardText).toList = some "a \"b\\".toList ∧
      (∃ c ∈ (docText awkwardText).toList, isBlank c = true ∧ c = ' ') ∧
      ∃ line behind, (Item.doc awkwardText).code.linesAt 1 = [line] ∧
        line.toList = "    #[doc = \"".toList ++ behind ∧
        literal? behind = some ("a \\\"b\\\\".toList, [']']) := by
  obtain ⟨⟨found, falls, reads⟩, blanks, _, lines⟩ := docText_readBack awkwardText
  have words : FallsInto awkwardText.toList ["a".toList, "\"b\\".toList] :=
    fallsInto_iff.mpr (by decide)
  have inside : (docText awkwardText).toList = "a \\\"b\\\\".toList := by decide
  have space : ' ' ∈ (docText awkwardText).toList := by decide
  cases (falls _).mp words
  obtain ⟨line, behind, written, shape, closes⟩ := lines 1
  rw [inside] at closes
  exact ⟨words, reads, ⟨' ', space, by decide, blanks ' ' space (by decide)⟩,
    line, behind, written, shape, closes⟩

end RegisterMap.Text
