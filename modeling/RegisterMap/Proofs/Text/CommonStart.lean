import RegisterMap.Text.Stem
import Mathlib.Data.List.Infix

/-!
# The greatest common start

Texts are ordered by what begins with what. Two of them have a greatest lower bound in this order,
the text up to where they part (`prefix_meet_iff`), and folding it over some names gives the
greatest lower bound of all (`prefix_commonStart_iff`). This says of `commonStart` everything there
is to say: it begins each name, it depends on nothing but which names there are
(`commonStart_congr`), and it is empty exactly when no character begins all of them
(`commonStart_eq_empty_iff`).
-/

namespace RegisterMap.Text

/-- A text begins what two texts have in common exactly when it begins both. -/
theorem prefix_meet_iff {text a b : List Char} : text <+: meet a b ↔ text <+: a ∧ text <+: b := by
  induction text generalizing a b with
  | nil => simp
  | cons c rest ih =>
    match a, b with
    | [], _ => simp [meet]
    | _ :: _, [] => simp [meet]
    | d :: as, e :: bs =>
      rw [meet]
      by_cases same : d = e
      · subst same
        rw [if_pos rfl, List.cons_prefix_cons, List.cons_prefix_cons, List.cons_prefix_cons, ih,
          and_and_left]
      · -- they part at once, so no first character will do
        rw [if_neg same, List.cons_prefix_cons, List.cons_prefix_cons]
        constructor
        · intro none
          cases List.prefix_nil.mp none
        · rintro ⟨⟨rfl, _⟩, rfl, _⟩
          exact absurd rfl same

/-- What begins the common start of some texts begins each of them, and nothing else does. -/
theorem prefix_foldl_meet_iff {text start : List Char} {others : List String} :
    text <+: others.foldl (fun start other => meet start other.toList) start ↔
      text <+: start ∧ ∀ other ∈ others, text <+: other.toList := by
  induction others generalizing start with
  | nil => simp
  | cons other rest ih =>
    rw [List.foldl_cons, ih, prefix_meet_iff, List.forall_mem_cons, and_assoc]

/-- **The common start** of some names is the greatest: what begins it is what begins all of
them. -/
theorem prefix_commonStart_iff {names : List String} (given : names ≠ []) {text : List Char} :
    text <+: (commonStart names).toList ↔ ∀ name ∈ names, text <+: name.toList := by
  cases names with
  | nil => exact absurd rfl given
  | cons name others =>
    rw [commonStart, String.toList_ofList, prefix_foldl_meet_iff, List.forall_mem_cons]

/-- The common start begins each name. -/
theorem commonStart_begins {names : List String} {name : String} (mem : name ∈ names) :
    (commonStart names).toList <+: name.toList :=
  (prefix_commonStart_iff (List.ne_nil_of_mem mem)).mp List.prefix_rfl name mem

/-- Neither the order of the names matters nor how often one occurs. -/
theorem commonStart_congr {names others : List String} (given : names ≠ [])
    (same : ∀ name, name ∈ others ↔ name ∈ names) : commonStart others = commonStart names := by
  have others_given : others ≠ [] := by
    rintro rfl
    obtain ⟨name, mem⟩ := List.exists_mem_of_ne_nil names given
    exact absurd ((same name).mpr mem) List.not_mem_nil
  apply String.toList_injective
  apply antisymm (r := (· <+: ·))
  · exact (prefix_commonStart_iff given).mpr fun name mem =>
      commonStart_begins ((same name).mpr mem)
  · exact (prefix_commonStart_iff others_given).mpr fun name mem =>
      commonStart_begins ((same name).mp mem)

/-- Nothing is common exactly when the names do not all begin with one character. -/
theorem commonStart_eq_empty_iff {names : List String} (given : names ≠ []) :
    commonStart names = "" ↔ ¬ ∃ c, ∀ name ∈ names, name.toList.head? = some c := by
  simp only [← List.singleton_prefix_iff_head?_eq_some, ← prefix_commonStart_iff given]
  rw [← String.toList_eq_nil_iff]
  cases (commonStart names).toList with
  | nil => simp
  | cons c rest => simp

end RegisterMap.Text
