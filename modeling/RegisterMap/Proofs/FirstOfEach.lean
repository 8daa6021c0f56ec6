import Mathlib.Data.List.Nodup

/-!
# The first of each name

Where several things have one name, the first of them counts. One pass over a list finds these: it
takes a thing unless its name is known, and then the name is known (`firsts`). What it finds are the
first of each name in the list, in the order in which the names appear (`areFirsts_firsts`).
-/

namespace RegisterMap

variable {α : Type} {name : α → String}

/-- Some things are at places of a list, in its order, and their names do not occur before. -/
structure AreFirstAt (name : α → String) (all chosen : List α) (places : List Nat) : Prop where
  ascending : places.Pairwise (· < ·)
  here : places.map (all[·]?) = chosen.map some
  new : ∀ place ∈ places, ∀ item, all[place]? = some item →
    ∀ earlier < place, ∀ other, all[earlier]? = some other → name other ≠ name item

/-- Some things are the first of each name in a list, in the order in which the names appear. -/
structure AreFirsts (name : α → String) (all chosen : List α) : Prop where
  distinct : (chosen.map name).Nodup
  complete : ∀ item ∈ all, ∃ first ∈ chosen, name first = name item
  inOrder : ∃ places, AreFirstAt name all chosen places

/-- The first things in a list of each name that is not known. -/
def firsts (name : α → String) (known : List String) : List α → List α
  | [] => []
  | item :: rest =>
    if name item ∈ known then firsts name known rest
    else item :: firsts name (name item :: known) rest

section Firsts

variable {known : List String} {all : List α} {item : α}

theorem firsts_of_known {rest : List α} (old : name item ∈ known) :
    firsts name known (item :: rest) = firsts name known rest :=
  if_pos old

theorem firsts_of_new {rest : List α} (new : name item ∉ known) :
    firsts name known (item :: rest) = item :: firsts name (name item :: known) rest :=
  if_neg new

/-- As long as no name is known, the next thing is taken. -/
theorem firsts_eq_nil : firsts name [] all = [] ↔ all = [] := by
  cases all with
  | nil => exact Iff.rfl
  | cons first rest => simp [firsts]

/-- Nothing is taken whose name is known. -/
theorem name_not_mem_of_mem_firsts (mem : item ∈ firsts name known all) : name item ∉ known := by
  induction all generalizing known with
  | nil => exact absurd mem List.not_mem_nil
  | cons first rest ih =>
    by_cases old : name first ∈ known
    · rw [firsts_of_known old] at mem
      exact ih mem
    · rw [firsts_of_new old] at mem
      rcases List.mem_cons.mp mem with rfl | later
      · exact old
      · exact fun known => ih later (List.mem_cons_of_mem _ known)

/-- No two things are taken that have one name. -/
theorem nodup_map_firsts (name : α → String) (known : List String) (all : List α) :
    ((firsts name known all).map name).Nodup := by
  induction all generalizing known with
  | nil => exact List.nodup_nil
  | cons first rest ih =>
    by_cases old : name first ∈ known
    · rw [firsts_of_known old]
      exact ih known
    · rw [firsts_of_new old, List.map_cons, List.nodup_cons]
      refine ⟨fun again => ?_, ih _⟩
      obtain ⟨other, mem, same⟩ := List.mem_map.mp again
      exact name_not_mem_of_mem_firsts mem (same ▸ List.mem_cons_self)

/-- A name is passed over only when it is known. -/
theorem exists_mem_firsts (mem : item ∈ all) :
    name item ∈ known ∨ ∃ first ∈ firsts name known all, name first = name item := by
  induction all generalizing known with
  | nil => exact absurd mem List.not_mem_nil
  | cons first rest ih =>
    by_cases old : name first ∈ known
    · rw [firsts_of_known old]
      rcases List.mem_cons.mp mem with rfl | later
      · exact .inl old
      · exact ih later
    · rw [firsts_of_new old]
      rcases List.mem_cons.mp mem with rfl | later
      · exact .inr ⟨item, List.mem_cons_self, rfl⟩
      · have behind : name item ∈ name first :: known ∨
            ∃ found ∈ firsts name (name first :: known) rest, name found = name item := ih later
        rcases behind with nowKnown | ⟨found, memFound, same⟩
        · rcases List.mem_cons.mp nowKnown with same | before
          · exact .inr ⟨first, List.mem_cons_self, same.symm⟩
          · exact .inl before
        · exact .inr ⟨found, List.mem_cons_of_mem _ memFound, same⟩

/-- Of each name the first thing is taken, unless the name is known. -/
theorem filter_firsts (name : α → String) (known : List String) (all : List α) (wanted : String) :
    (firsts name known all).filter (name · = wanted) =
      if wanted ∈ known then [] else (all.find? (name · = wanted)).toList := by
  induction all generalizing known with
  | nil => simp [firsts]
  | cons first rest ih =>
    by_cases same : name first = wanted
    · subst same
      by_cases old : name first ∈ known
      · rw [firsts_of_known old, ih, if_pos old, if_pos old]
      · rw [firsts_of_new old, List.filter_cons_of_pos (by simp), ih, if_pos List.mem_cons_self,
          if_neg old, List.find?_cons_of_pos (by simp)]
        rfl
    · have passed : (first :: rest).find? (name · = wanted) = rest.find? (name · = wanted) :=
        List.find?_cons_of_neg (by simpa using same)
      by_cases old : name first ∈ known
      · rw [firsts_of_known old, ih, passed]
      · have stillNew : wanted ∈ name first :: known ↔ wanted ∈ known := by
          simp [Ne.symm same]
        rw [firsts_of_new old, List.filter_cons_of_neg (by simpa using same), ih, passed]
        simp only [stillNew]

namespace AreFirstAt

variable {first : α} {rest chosen : List α} {places : List Nat}

/-- What stands at one of the places is among the chosen things. -/
theorem mem_of_getElem? (h : AreFirstAt name all chosen places) {place : Nat} (mem : place ∈ places)
    (here : all[place]? = some item) : item ∈ chosen := by
  have memSome : some item ∈ chosen.map some := by
    rw [← h.here, ← here]
    exact List.mem_map_of_mem mem
  obtain ⟨_, mem, same⟩ := List.mem_map.mp memSome
  exact Option.some.inj same ▸ mem

/-- Behind something of another name they are one place further on. -/
theorem cons (h : AreFirstAt name rest chosen places)
    (other : ∀ item ∈ chosen, name first ≠ name item) :
    AreFirstAt name (first :: rest) chosen (places.map (· + 1)) where
  ascending := h.ascending.map _ fun _ _ => Nat.succ_lt_succ
  here := by
    rw [← h.here, List.map_map]
    rfl
  new := by
    intro place mem item here earlier before predecessor there
    obtain ⟨later, memLater, rfl⟩ := List.mem_map.mp mem
    rw [List.getElem?_cons_succ] at here
    cases earlier with
    | zero =>
      cases there
      exact other item (h.mem_of_getElem? memLater here)
    | succ earlier =>
      exact h.new later memLater item here earlier (Nat.lt_of_succ_lt_succ before) predecessor there

/-- The first thing of a list is the first of its name. -/
theorem cons_self (h : AreFirstAt name (first :: rest) chosen (places.map (· + 1))) :
    AreFirstAt name (first :: rest) (first :: chosen) (0 :: places.map (· + 1)) where
  ascending := by
    refine List.pairwise_cons.mpr ⟨fun place mem => ?_, h.ascending⟩
    obtain ⟨_, _, rfl⟩ := List.mem_map.mp mem
    exact Nat.succ_pos _
  here := by
    rw [List.map_cons, h.here]
    rfl
  new := by
    intro place mem item here earlier before
    rcases List.mem_cons.mp mem with rfl | later
    · exact absurd before (Nat.not_lt_zero earlier)
    · exact h.new place later item here earlier before

end AreFirstAt

/-- What is taken stands at places of the list where names occur first. -/
theorem exists_areFirstAt_firsts (name : α → String) (known : List String) (all : List α) :
    ∃ places, AreFirstAt name all (firsts name known all) places := by
  induction all generalizing known with
  | nil => exact ⟨[], .nil, rfl, fun _ mem => absurd mem List.not_mem_nil⟩
  | cons first rest ih =>
    by_cases old : name first ∈ known
    · obtain ⟨places, atPlaces⟩ := ih known
      rw [firsts_of_known old]
      exact ⟨_, atPlaces.cons fun item mem same => name_not_mem_of_mem_firsts mem (same ▸ old)⟩
    · obtain ⟨places, atPlaces⟩ := ih (name first :: known)
      rw [firsts_of_new old]
      refine ⟨_, (atPlaces.cons fun item mem same => ?_).cons_self⟩
      exact name_not_mem_of_mem_firsts mem (same ▸ List.mem_cons_self)

end Firsts

/-- **The pass finds the first of each name.** -/
theorem areFirsts_firsts (name : α → String) (all : List α) :
    AreFirsts name all (firsts name [] all) where
  distinct := nodup_map_firsts name [] all
  complete _ mem := (exists_mem_firsts mem).resolve_left List.not_mem_nil
  inOrder := exists_areFirstAt_firsts name [] all

end RegisterMap
