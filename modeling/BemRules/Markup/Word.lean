namespace BemRules.Markup

def shortTags : List String :=
  ["area", "base", "br", "col", "command", "embed", "hr", "img", "input", "keygen", "link",
    "meta", "param", "source", "wbr"]

/-- Tag names are compared as they are written. -/
def isShortTag (tag : String) : Bool := shortTags.contains tag

def isWordChar (c : Char) : Bool :=
  c.isAlphanum || c == ':' || c == '_' || c == '.' || c == '-'

def isUnquotedAttr (value : String) : Bool := !value.isEmpty && value.toList.all isWordChar

end BemRules.Markup

namespace BemRules.Escape

abbrev Table := List (Char × List Char)

def amp : Char × List Char := ('&', ['&', 'a', 'm', 'p', ';'])
def lt : Char × List Char := ('<', ['&', 'l', 't', ';'])
def gt : Char × List Char := ('>', ['&', 'g', 't', ';'])
def quot : Char × List Char := ('"', ['&', 'q', 'u', 'o', 't', ';'])
def apos : Char × List Char := ('\'', ['&', '#', '3', '9', ';'])

def xml : Table := [amp, lt, gt]

/-- For attribute values in double quotes. -/
def attr : Table := [quot, amp, lt, gt]

/-- For attribute values in single quotes that hold data text. -/
def jsAttr : Table := [amp, apos]

def entity? (t : Table) (c : Char) : Option (List Char) := t.lookup c

def encodeChar (t : Table) (c : Char) : List Char := (entity? t c).getD [c]

def encodeChars (t : Table) (cs : List Char) : List Char := cs.flatMap (encodeChar t)

theorem encodeChars_append (t : Table) (a b : List Char) :
    encodeChars t (a ++ b) = encodeChars t a ++ encodeChars t b :=
  List.flatMap_append

def isGuarded (t : Table) (c : Char) : Bool := (entity? t c).isSome

/-- A text without guarded characters is left as it is. Any other is gone through from its first
guarded character on. -/
def encode (t : Table) (s : String) : String :=
  let clean := s.toList.takeWhile fun c => !isGuarded t c
  let rest := s.toList.dropWhile fun c => !isGuarded t c
  if rest.isEmpty then s else String.ofList (clean ++ encodeChars t rest)

def entityAt? (t : Table) (cs : List Char) : Option (Char × List Char) :=
  t.find? fun e => e.2.isPrefixOf cs

def decodeChars (t : Table) : List Char → List Char
  | [] => []
  | c :: cs =>
    match entityAt? t (c :: cs) with
    | some e => e.1 :: decodeChars t (cs.drop (e.2.length - 1))
    | none => c :: decodeChars t cs
termination_by cs => cs.length

def decode (t : Table) (s : String) : String := String.ofList (decodeChars t s.toList)

end BemRules.Escape
