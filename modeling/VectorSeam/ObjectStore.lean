import VectorSeam.Text

/-!
Object-store paths and the objects stored under them. A path is a list of segments;
building one from text splits at slashes, drops empty segments and percent-encodes
the rest, as the store's path type documents.
-/

namespace VectorSeam.ObjectStore
open VectorSeam.Text

/-- ASCII characters that are percent-encoded in a path segment, besides the control characters. -/
def INVALID : List Char :=
  ['/', '\\', '\x7b', '^', '\x7d', '%', '\x60', ']', '"', '>', '[', '~', '<', '#', '|', '*', '?']

/-- Characters that stand for themselves in a path segment. -/
def is_plain (char : Char) : Bool := 32 ≤ char.toNat && char.toNat < 127 && char ∉ INVALID
def encode_byte (byte : UInt8) : List Char :=
  ['%', Nat.digitChar (byte.toNat / 16) |>.toUpper, Nat.digitChar (byte.toNat % 16) |>.toUpper]
def encode_char (char : Char) : List Char :=
  if is_plain char then [char] else (String.singleton char).toUTF8.data.toList.flatMap encode_byte
def encode_part (part : String) : String :=
  if part = "." then "%2E"
  else if part = ".." then "%2E%2E"
  else String.ofList (part.toList.flatMap encode_char)

structure Path where
  parts : List String
deriving DecidableEq

namespace Path

def from_text (text : String) : Path := ⟨((split_on '/' text).filter (· ≠ "")).map encode_part⟩
/-- The path as the key it is stored under. -/
def raw (path : Path) : String := join '/' path.parts
def filename (path : Path) : Option String := path.parts.getLast?
/-- What follows the last dot of the file name, when that is not empty. -/
def extension (path : Path) : Option String :=
  path.filename.bind fun name =>
    match (split_on '.' name).reverse with
    | last :: _ :: _ => if last = "" then none else some last
    | _ => none
/-- Whether a path lies strictly below a prefix, segment by segment. -/
def below (lead path : Path) : Bool := lead.parts.isPrefixOf path.parts && decide (lead.parts.length < path.parts.length)
/-- The first segment, which separates the kinds of objects. -/
def root (path : Path) : Option String := path.parts.head?

end Path

section Objects
variable {B : Type}

/-- Stored objects, the newest first. -/
abbrev Objects (B : Type) := List (Path × B)

def lookup : Objects B → Path → Option B
  | [], _ => none
  | (stored, bytes) :: rest, path => if stored = path then some bytes else lookup rest path
def store (objects : Objects B) (path : Path) (bytes : B) : Objects B := (path, bytes) :: objects
/-- The stored paths below a prefix. -/
def listing (objects : Objects B) (lead : Path) : List Path := (objects.map Prod.fst).dedup.filter lead.below

@[simp] theorem lookup_store {objects : Objects B} {path other : Path} {bytes : B} :
    lookup (store objects path bytes) other = if path = other then some bytes else lookup objects other := rfl

theorem lookup_store_of_ne {objects : Objects B} {path other : Path} {bytes : B} (different : path ≠ other) :
    lookup (store objects path bytes) other = lookup objects other := by
  rw [lookup_store, if_neg different]

theorem lookup_isSome {objects : Objects B} {path : Path} :
    (lookup objects path).isSome ↔ path ∈ objects.map Prod.fst := by
  induction objects with
  | nil => simp [lookup]
  | cons entry rest ih =>
    obtain ⟨stored, bytes⟩ := entry
    by_cases here : stored = path
    · simp [lookup, here]
    · simp only [lookup, here, ↓reduceIte, ih, List.map_cons, List.mem_cons]
      exact ⟨.inr, fun either => either.resolve_left (Ne.symm here)⟩

theorem mem_listing {objects : Objects B} {lead path : Path} :
    path ∈ listing objects lead ↔ (lookup objects path).isSome ∧ lead.below path = true := by
  rw [listing, List.mem_filter, List.mem_dedup, lookup_isSome]

theorem nodup_listing (objects : Objects B) (lead : Path) : (listing objects lead).Nodup :=
  (List.nodup_dedup _).filter _

end Objects

/-! ### Paths built from text -/

/-- Texts whose characters all stand for themselves are their own encoding. -/
theorem encode_part_plain {part : String} (plain : ∀ char ∈ part.toList, is_plain char = true) (dot : part ≠ ".")
    (dots : part ≠ "..") : encode_part part = part := by
  have same : ∀ chars : List Char, (∀ char ∈ chars, is_plain char = true) → chars.flatMap encode_char = chars := by
    intro chars all
    induction chars with
    | nil => rfl
    | cons char rest ih =>
      rw [List.flatMap_cons, ih fun other member => all other (List.mem_cons_of_mem _ member)]
      simp [encode_char, all char (by simp)]
  rw [encode_part, if_neg dot, if_neg dots, same _ plain, String.ofList_toList]

theorem Path.parts_append (front back : String) :
    (Path.from_text (front ++ "/" ++ back)).parts = (Path.from_text front).parts ++ (Path.from_text back).parts := by
  have pieces : split_on '/' (front ++ "/" ++ back) = split_on '/' front ++ split_on '/' back := by
    have joined : (front ++ "/" ++ back).toList = front.toList ++ '/' :: back.toList := by simp
    rw [split_on, joined, List.splitOn_append_cons_self, List.map_append]
    rfl
  simp [Path.from_text, pieces]

/-- A text that is one plain segment is its own only part. -/
structure PlainSegment (text : String) : Prop where
  nonempty : text ≠ ""
  plain : text.toList.all is_plain = true
  dot : text ≠ "."
  dots : text ≠ ".."

theorem Path.parts_plain {text : String} (segment : PlainSegment text) : (Path.from_text text).parts = [text] := by
  have slash : '/' ∉ text.toList := fun member => absurd (List.all_eq_true.mp segment.plain '/' member) (by decide)
  have single : split_on '/' text = [text] := by
    rw [split_on, List.splitOn_eq_singleton slash, List.map_singleton, String.ofList_toList]
  simp [Path.from_text, single, segment.nonempty, encode_part_plain (List.all_eq_true.mp segment.plain) segment.dot segment.dots]

theorem Path.root_of_plain {front back : String} (segment : PlainSegment front) :
    (Path.from_text (front ++ "/" ++ back)).root = some front := by
  rw [Path.root, Path.parts_append, Path.parts_plain segment]
  rfl

theorem Path.filename_of_plain {front back : String} (segment : PlainSegment back) :
    (Path.from_text (front ++ "/" ++ back)).filename = some back := by
  rw [Path.filename, Path.parts_append, Path.parts_plain segment]
  simp

example : (Path.from_text "cohorts//a b/../x~y").parts = ["cohorts", "a b", "%2E%2E", "x%7Ey"] := by decide
example : (Path.from_text "a/part-1.vseam").extension = some "vseam" := by decide

end VectorSeam.ObjectStore
