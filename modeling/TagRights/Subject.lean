import TagRights.Registry

namespace TagRights

/-- What a word of a set expression does. -/
inductive Directive where
  | grant (token : String)
  | revoke (name : String)
  deriving DecidableEq

namespace Directive

def parse (token : String) : Directive :=
  match Text.afterFirst? '!' token with
  | some name => revoke name
  | none => grant token

/-- The directives of an expression, from left to right. -/
def parseAll (expression : String) : List Directive :=
  (Text.words expression).map parse

end Directive

/-- Tags in their spellings. No two of them are equal up to case. -/
@[ext]
structure TagList where
  tags : List String
  distinct : (tags.map Text.lowercase).Nodup
  deriving DecidableEq

namespace TagList

def has (list : TagList) (name : String) : Bool :=
  list.tags.any (Text.sameName · name)

theorem has_iff {list : TagList} {name : String} :
    list.has name ↔ Text.lowercase name ∈ list.tags.map Text.lowercase := by
  simp [has]

theorem nodup_concat {list : TagList} {name : String} (new : ¬list.has name) :
    ((list.tags ++ [name]).map Text.lowercase).Nodup := by
  rw [List.map_append, List.map_singleton, List.nodup_append]
  refine ⟨list.distinct, by simp, ?_⟩
  intro a ha b hb same
  rw [same, List.mem_singleton.1 hb] at ha
  exact new (has_iff.2 ha)

/-- A tag that is present keeps its place and spelling; another goes to the end. -/
def insert (list : TagList) (name : String) : TagList :=
  if held : list.has name then list
  else ⟨list.tags ++ [name], nodup_concat held⟩

def remove (list : TagList) (name : String) : TagList :=
  ⟨list.tags.filter (!Text.sameName · name), list.distinct.sublist (List.filter_sublist.map _)⟩

theorem tags_remove (list : TagList) (name : String) :
    (list.remove name).tags = list.tags.filter (!Text.sameName · name) := rfl

def empty : TagList :=
  ⟨[], List.nodup_nil⟩

def ofText (s : String) : TagList :=
  (Text.words s).foldl insert empty

def text (list : TagList) : String :=
  " ".intercalate list.tags

end TagList

/-- Someone who holds tags and carries data. -/
structure Subject where
  /-- Tag names between white space. -/
  tags : String
  data : DataBag

namespace Subject

def tagNames (s : Subject) : List String :=
  Text.words s.tags

def has (s : Subject) (name : String) : Bool :=
  s.tagNames.any (Text.sameName · name)

end Subject

/-- A subject in the middle of a set expression. -/
structure Working where
  list : TagList
  data : DataBag

namespace Working

/-- Takes away what goes by this name up to case. -/
def drop (w : Working) (name : String) : Working :=
  ⟨w.list.remove name, w.data.without name⟩

/-- A hook sees the data alone. -/
def runHook (hook : Option Hook) (w : Working) : Working :=
  match hook with
  | some run => { w with data := run w.data }
  | none => w

/-- Adds the tag's data, unless its name is taken. -/
def addData (tag : Tag) (w : Working) : Working :=
  match tag.data with
  | some members =>
    if w.data.has tag.name then w else { w with data := w.data.put tag.name (.obj members) }
  | none => w

/-- The tag joins the list and its data the bag, even if it was held before; then its hook runs. -/
def grant (w : Working) (tag : Tag) : Working :=
  runHook tag.onGrant (addData tag { w with list := w.list.insert tag.name })

/-- Revoking takes away the name as written, and if it means a tag, that tag too. -/
def step (r : Registry) (w : Working) : Directive → Working
  | .grant token =>
    match r.find? token with
    | some tag => w.grant tag
    | none => w
  | .revoke name =>
    match r.find? name with
    | some tag => runHook tag.onRevoke ((w.drop name).drop tag.name)
    | none => w.drop name

end Working

namespace Registry

/-- What the directives of `expression`, in order, make of a subject. -/
def set (r : Registry) (s : Subject) (expression : String) : Subject :=
  let w := (Directive.parseAll expression).foldl (Working.step r) ⟨TagList.ofText s.tags, s.data⟩
  ⟨w.list.text, w.data⟩

end Registry

end TagRights
