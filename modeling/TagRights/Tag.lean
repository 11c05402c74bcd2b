import TagRights.Json.Basic
import TagRights.Text.Lowercase

namespace TagRights

/-- JSON values under tag names, in the order in which they came. -/
abbrev DataBag := Members Json

/-- Leaves out every member whose name is `name` up to case. -/
def DataBag.without (bag : DataBag) (name : String) : DataBag :=
  bag.filter fun (n, _) => !Text.sameName n name

/-- What a tag does to the data bag when it is granted or revoked. -/
abbrev Hook := DataBag → DataBag

inductive BagEdit where
  | put (name : String) (value : Json)
  | erase (name : String)
  /-- Extends an array, or starts one. -/
  | append (name : String) (value : Json)
  /-- Puts into an object, if there is one under `name`. -/
  | putInside (name member : String) (value : Json)

def BagEdit.apply : BagEdit → DataBag → DataBag
  | put name value, bag => bag.put name value
  | erase name, bag => bag.erase name
  | append name value, bag =>
    match bag.get? name with
    | some (.arr items) => bag.put name (.arr (items ++ [value]))
    | _ => bag.put name (.arr [value])
  | putInside name member value, bag =>
    match bag.get? name with
    | some (.obj members) => bag.put name (.obj (Members.put members member value))
    | _ => bag

/-- The hook that makes the edits in order. -/
def Hook.ofEdits (edits : List BagEdit) : Hook :=
  fun bag => edits.foldl (fun bag edit => edit.apply bag) bag

/-- A tag as it is written down, before it is registered. -/
structure Definition where
  name : String
  code : String
  level : Option Nat := none
  data : Option DataBag := none
  lock : Option String := none
  onGrant : Option Hook := none
  onRevoke : Option Hook := none

/-- A registered tag. Its name is in lower case. Granting the tag puts `data` into the data bag;
`lock` is kept for others to read. -/
structure Tag where
  name : String
  code : String
  level : Nat
  data : Option DataBag
  lock : Option String
  onGrant : Option Hook
  onRevoke : Option Hook

namespace Tag

def ofDefinition (d : Definition) : Tag where
  name := Text.lowercase d.name
  code := d.code
  level := d.level.getD 0
  data := d.data
  lock := d.lock
  onGrant := d.onGrant
  onRevoke := d.onRevoke

/-- A definition replaces the code and the level, and of the rest what it gives. -/
def redefine (t : Tag) (d : Definition) : Tag where
  name := Text.lowercase d.name
  code := d.code
  level := d.level.getD 0
  data := d.data.or t.data
  lock := d.lock.or t.lock
  onGrant := d.onGrant.or t.onGrant
  onRevoke := d.onRevoke.or t.onRevoke

end Tag

end TagRights
