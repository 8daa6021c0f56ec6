import RegisterMap.Model.Register
import RegisterMap.Text.Stem

/-!
# Groups of fields

Fields named `CH0`, `CH1`, … `CHn` that lie at regular distances become one indexed
accessor. The fields whose names have a common stem make a group when there are at
least two of them, their numbers are exactly those from zero up to one less than how
many they are, all have the same width and the same access right, and each begins a
constant, positive number of bits above the one before it. All other fields stay as
they are, in their order.
-/

namespace RegisterMap

open Text

/-- Fields that share one indexed accessor. Field `i` begins `i` strides above
`lsb`. -/
structure FieldGroup where
  stem : String
  lsb : Int
  width : Int
  count : Nat
  stride : Int
  description : Option String := none
  access : Option Access := none
  deriving DecidableEq, Repr

/-- Whether each field in a list begins the same number of bits above the one before
it. -/
def evenlySpaced (stride : Int) : List Field → Bool
  | a :: b :: rest => b.lsb - a.lsb = stride && evenlySpaced stride (b :: rest)
  | _ => true

/-- The fields of a list by their numbers: number zero, number one, and so on up to
how many there are. There are none if a number is missing. -/
def byNumber? (fields : List Field) : Option (List Field) :=
  (List.range fields.length).mapM fun number =>
    fields.find? fun f => endNumber? f.name = some number

/-- The group that fields with a common stem make. -/
def FieldGroup.ofFields? (stem : String) (fields : List Field) : Option FieldGroup :=
  if stem = "" then none
  else
    match byNumber? fields with
    | some (first :: second :: rest) =>
      let stride := second.lsb - first.lsb
      if 0 < stride
          && (second :: rest).all (fun f => f.width = first.width && f.access = first.access)
          && evenlySpaced stride (first :: second :: rest) then
        some
          { stem
            lsb := first.lsb
            width := first.width
            count := fields.length
            stride
            description := fields.findSome? fun f => f.description.filter (· ≠ "")
            access := first.access }
      else none
    | _ => none

/-- The different elements of a list, each where it comes first. -/
def distinct [DecidableEq α] : List α → List α
  | [] => []
  | a :: rest => a :: (distinct rest).filter (· ≠ a)

/-- The fields of a list whose names have a stem. -/
def fieldsWithStem (fields : List Field) (wanted : String) : List Field :=
  fields.filter fun f => stem f.name = wanted

/-- The group of the fields with a stem. -/
def groupOfStem? (fields : List Field) (wanted : String) : Option FieldGroup :=
  FieldGroup.ofFields? wanted (fieldsWithStem fields wanted)

/-- The groups that some fields make, in the order in which their stems appear. -/
def fieldGroups (fields : List Field) : List FieldGroup :=
  (distinct (fields.map (stem ·.name))).filterMap (groupOfStem? fields)

/-- Whether a field belongs to none of some groups. -/
def isUngrouped (groups : List FieldGroup) (f : Field) : Bool :=
  !groups.any fun group => group.stem = stem f.name

/-- The fields that belong to no group, in their order. -/
def ungroupedFields (fields : List Field) : List Field :=
  fields.filter (isUngrouped (fieldGroups fields))

end RegisterMap
