import RegisterMap.Xml.Token

/-!
# Content models

The declaration of an element says what may stand in it: nothing, anything, text mixed
with some elements, or groups of elements. What it says is not enforced, but it has to
be well formed: members of one group are joined by one kind of sign, and every group
ends.
-/

namespace RegisterMap.Xml.Token

/-- Whether tokens end a group that began with text. With other elements in the group a
star has to stand behind it. -/
def endsMixed : List Token → Bool
  | [.closeGroup sign] => sign = some '*'
  | .bar :: .named _ :: rest => endsMixed rest
  | _ => false

/-- Whether tokens end the groups that are open. `joints` holds for each of these, the
innermost in front, the sign between its members so far; `wantsMember` says whether the
innermost group has to go on with a member. -/
def endsGroups (joints : List (Option Token)) (wantsMember : Bool) : List Token → Bool
  | [] => joints.isEmpty
  | token :: rest =>
    match wantsMember, token, joints with
    | true, .openGroup, _ => endsGroups (none :: joints) true rest
    | true, .named _, _ => endsGroups joints false rest
    | true, .counted _, _ => endsGroups joints false rest
    | false, .closeGroup _, _ :: outer => endsGroups outer false rest
    | false, .bar, joint :: outer =>
      joint ≠ some .comma && endsGroups (some .bar :: outer) true rest
    | false, .comma, joint :: outer =>
      joint ≠ some .bar && endsGroups (some .comma :: outer) true rest
    | _, _, _ => false

/-- Whether tokens are the model of what may stand in an element. -/
def isContentModel : List Token → Bool
  | [.plain "EMPTY"] => true
  | [.plain "ANY"] => true
  | [.openGroup, .keyword "PCDATA", .closeGroup sign] => sign = none || sign = some '*'
  | .openGroup :: .keyword "PCDATA" :: rest => endsMixed rest
  | .openGroup :: rest => endsGroups [none] true rest
  | _ => false

end RegisterMap.Xml.Token
