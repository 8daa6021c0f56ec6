/-!
# First fit

Things are sorted into buckets one after the other. Each goes into the first bucket
whose first member it is similar to, and opens a new bucket if there is none. The
first member of a bucket stands for the bucket; the others are not asked.
-/

namespace RegisterMap

/-- One or more things, in the order in which they came. -/
structure Bucket (α : Type) where
  first : α
  others : List α

namespace Bucket

variable {α : Type}

/-- The members of a bucket. -/
def toList (bucket : Bucket α) : List α := bucket.first :: bucket.others

/-- A bucket with one more member. -/
def push (bucket : Bucket α) (item : α) : Bucket α :=
  { bucket with others := bucket.others ++ [item] }

/-- Puts a thing into the first bucket that fits. -/
def place (similar : α → α → Bool) : List (Bucket α) → α → List (Bucket α)
  | [], item => [{ first := item, others := [] }]
  | bucket :: rest, item =>
    if similar bucket.first item then bucket.push item :: rest
    else bucket :: place similar rest item

/-- Sorts things into buckets. -/
def firstFit (similar : α → α → Bool) (items : List α) : List (Bucket α) :=
  items.foldl (place similar) []

end Bucket

end RegisterMap
