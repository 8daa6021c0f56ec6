import RegisterMap.Grouping.FirstFit
import RegisterMap.Grouping.UniqueNames
import RegisterMap.Similar
import RegisterMap.Text.Stem

/-!
# Groups of peripherals

Similar peripherals share their code: a group becomes one module with one handle
type and a constant for each member. A group needs at least two members and a name
for its handle type. The name is the first header struct name that a member gives;
otherwise it is made from the names of the members, and may turn out empty. A bucket
without a group leaves its members to be emitted one by one.

The modules of the groups and of the individual peripherals get different names.
-/

namespace RegisterMap

open Text

/-- A peripheral and its position in the device. -/
structure Member where
  position : Nat
  peripheral : Peripheral

/-- Peripherals that share one handle type. -/
structure PeripheralGroup where
  moduleName : String
  structName : String
  members : List Member

/-- A peripheral that is emitted on its own, under a name that no other module has. -/
structure NamedPeripheral where
  name : String
  member : Member

/-- The first text in a list that is given and not empty. -/
def firstText (texts : List (Option String)) : Option String :=
  texts.findSome? fun text => text.filter (· ≠ "")

/-- The description of a group: the first that a member gives. -/
def PeripheralGroup.description (group : PeripheralGroup) : Option String :=
  firstText (group.members.map (·.peripheral.description))

/-- The name of the handle type of some peripherals. If no member gives a header
struct name, it is the name of the first member without its number, in case that
name ends in a digit, and the common start of all names otherwise. -/
def groupStructName (peripherals : List Peripheral) : String :=
  match firstText (peripherals.map (·.headerStructName)) with
  | some given => given
  | none =>
    match peripherals with
    | [] => ""
    | first :: _ =>
      if endsInDigit first.name then stem first.name
      else commonStart (peripherals.map (·.name))

/-- The group that a bucket makes, if it has two members and a name. -/
def PeripheralGroup.ofBucket? (bucket : Bucket Member) : Option PeripheralGroup :=
  let structName := groupStructName (bucket.toList.map (·.peripheral))
  if bucket.others.isEmpty || structName = "" then none
  else some { moduleName := structName, structName, members := bucket.toList }

/-- How the peripherals of a device are emitted. -/
structure Arrangement where
  groups : List PeripheralGroup
  individuals : List NamedPeripheral
  /-- The names in each bucket that found no name for a group. -/
  unnamed : List (List String) := []
  /-- The module names that were changed, with what became of them. -/
  renamed : List (String × String) := []

namespace Arrangement

/-- Peripherals with their positions. -/
def membersOf (peripherals : List Peripheral) : List Member :=
  peripherals.zipIdx.map fun entry => { position := entry.2, peripheral := entry.1 }

/-- Gives names to individual peripherals. -/
def nameIndividuals (members : List Member) (names : List String) : List NamedPeripheral :=
  List.zipWith (fun member name => { name, member }) members names

/-- Gives module names to groups. -/
def nameGroups (groups : List PeripheralGroup) (names : List String) : List PeripheralGroup :=
  List.zipWith (fun group moduleName => { group with moduleName }) groups names

/-- Every peripheral on its own. -/
def separate (taken : List String) (peripherals : List Peripheral) : Arrangement :=
  let names := peripherals.map (·.name)
  let unique := uniqueNames taken names
  { groups := []
    individuals := nameIndividuals (membersOf peripherals) unique
    renamed := renamings names unique }

/-- Similar peripherals in groups, the others on their own. Names go first to the
individual peripherals, then to the groups. -/
def grouped (ignoreFields : Bool) (taken : List String) (peripherals : List Peripheral) :
    Arrangement :=
  let buckets :=
    Bucket.firstFit (fun a b => a.peripheral.similar ignoreFields b.peripheral)
      (membersOf peripherals)
  let groups := buckets.filterMap PeripheralGroup.ofBucket?
  let alone := buckets.filter fun bucket => (PeripheralGroup.ofBucket? bucket).isNone
  let members := alone.flatMap Bucket.toList
  let names := members.map (·.peripheral.name) ++ groups.map (·.moduleName)
  let unique := uniqueNames taken names
  { groups := nameGroups groups (unique.drop members.length)
    individuals := nameIndividuals members unique
    unnamed :=
      (alone.filter (!·.others.isEmpty)).map fun bucket =>
        bucket.toList.map (·.peripheral.name)
    renamed := renamings names unique }

end Arrangement

end RegisterMap
