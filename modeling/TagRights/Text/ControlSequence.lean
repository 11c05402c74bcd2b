namespace TagRights.Text

/-- The stages of the header of a string for a device, of which none comes twice. -/
inductive HeaderStage where
  | start
  | parameters
  | intermediate

/-- The kinds of sequences, by what follows the escape character. -/
inductive ControlSequence where
  | escape
  /-- An escape with further characters before the one that ends it. -/
  | designation
  /-- Parameters and a final letter, as for colours. -/
  | parameters
  /-- A command to the terminal's own program, such as a title, up to a bell. -/
  | command
  /-- What stands before a string for a device and says how to take it. -/
  | deviceHeader (stage : HeaderStage)
  /-- A string for a device, up to a string terminator. -/
  | deviceString

namespace ControlSequence

/-- How far a sequence has been read. -/
inductive Mode where
  | outside
  | inside (s : ControlSequence)
  /-- White space inside a sequence is shown, and text with it up to the next control character,
  where the sequence goes on. -/
  | interrupted (s : ControlSequence)

def isControl (c : Char) : Bool :=
  c.toNat < 0x20 || c.toNat == 0x7F

def isLineSpace (c : Char) : Bool :=
  c == '\t' || c == '\n' || c == '\x0c' || c == '\r'

def isShown (c : Char) : Bool :=
  !isControl c || isLineSpace c

/-- Whether `c` has the byte that ends device strings. -/
def endsString (c : Char) : Bool :=
  c.toString.toUTF8.toList.contains 0x9C

/-- What a header becomes with `c`. What stands in the wrong stage begins the string, as a letter
does. The end of a string does not count here. -/
def nextOfHeader (c : Char) (stage : HeaderStage) : ControlSequence :=
  if isControl c || 0x80 ≤ c.toNat then deviceHeader stage
  else if c.toNat < 0x30 then deviceHeader .intermediate
  else match stage with
    | .start => if c.toNat < 0x40 then deviceHeader .parameters else deviceString
    | .parameters => if c.toNat < 0x3C then deviceHeader .parameters else deviceString
    | .intermediate => deviceString

/-- What a sequence becomes with `c`, where `c` is no escape character and does not cancel it. -/
def next (c : Char) : ControlSequence → Mode
  | command => if c = '\x07' then .outside else .inside command
  | deviceHeader stage => .inside (nextOfHeader c stage)
  | deviceString => if endsString c then .outside else .inside deviceString
  | s =>
    if isLineSpace c then .interrupted s
    else if isControl c || 0x80 ≤ c.toNat then .inside s
    else match s with
      | escape =>
        if c.toNat < 0x30 then .inside designation
        else match c with
          | '[' => .inside parameters
          | ']' => .inside command
          | 'P' => .inside (deviceHeader .start)
          | 'X' | '^' | '_' => .inside deviceString
          | _ => .outside
      | parameters => if c.toNat < 0x40 then .inside parameters else .outside
      | _ => if c.toNat < 0x30 then .inside s else .outside

/-- The mode after `c`, and whether `c` is shown. -/
def step (m : Mode) (c : Char) : Mode × Bool :=
  if c = '\x1b' then (.inside escape, false)
  else if c = '\x18' ∨ c = '\x1a' then (.outside, false)
  else match m with
    | .outside => (.outside, isShown c)
    | .interrupted s =>
      if !isShown c then (.inside s, false)
      else (if c.toNat < 0x80 then .interrupted s else .outside, true)
    | .inside s =>
      match next c s with
      | .interrupted s => (.interrupted s, true)
      | m => (m, false)

def shown (m : Mode) : List Char → List Char
  | [] => []
  | c :: cs =>
    let (m, keep) := step m c
    if keep then c :: shown m cs else shown m cs

end ControlSequence

/-- The text without what a terminal would obey. What begins with an escape character is left out up
to its end, even where that end never comes. -/
def withoutControls (s : String) : String :=
  String.ofList (ControlSequence.shown .outside s.toList)

end TagRights.Text
