import Mathlib.Data.List.Basic
import TfK8s.Py.Value

/-!
# `fnmatch`: shell patterns as CPython 3.11 translates and runs them

`fnmatch.filter(names, pat)` translates the pattern to a regular expression
once, compiles it, and keeps the names it matches in full. The translation
reads `*`, `?` and bracket classes, and escapes every other character; a `[`
with no closing `]` after it is an ordinary character. A class body with a
hyphen is cut into chunks at the hyphens that can form ranges, chunks that
would make a descending range are merged, and `sre_parse` then reads the body
back as single characters and ranges. A descending range would be `re.error`;
the merge is there to prevent it, and the model keeps the raise.

The compiled expression is `(?s:F0(?>.*?F1)...(?>.*?Fn).*Fl)\Z`, one block of
fixed single-character pieces per gap between stars. Each interior block is an
atomic group: it matches at the leftmost place it can and is never retried.
`Regex.matches` runs exactly that search.
-/

namespace TfK8s.Py

/-! ## Translation -/

/-- A character of a class body as the compiled expression spells it: `lit`
for a character (escaped or not, it stands for itself) and `dash` for an
unescaped `-` that `sre_parse` may read as a range. -/
inductive SetAtom where
  | lit (c : Char)
  | dash
  deriving DecidableEq, Repr

/-- The character an atom stands for when it is not read as a range. -/
def SetAtom.char : SetAtom → Char
  | .lit c => c
  | .dash => '-'

/-- One piece of `translate`'s output. -/
inductive Piece where
  | star
  /-- `.`, for `?` and for the class `[!]` -/
  | anyChar
  /-- `re.escape(c)` -/
  | lit (c : Char)
  /-- `(?!)`, for a class that is empty -/
  | never
  | set (negated : Bool) (body : List SetAtom)
  deriving DecidableEq, Repr

/-- The index, in what follows a `[`, of the `]` that closes it: a leading `!`
and then a leading `]` belong to the body. -/
def bracketEnd (rest : List Char) : Option Nat :=
  let j₁ := if rest.head? = some '!' then 1 else 0
  let j₂ := if (rest.drop j₁).head? = some ']' then j₁ + 1 else j₁
  ((rest.drop j₂).findIdx? (· = ']')).map (j₂ + ·)

/-- The `while True` loop that cuts a class body at hyphens: `skip` more
characters of the current chunk are passed before a hyphen may cut again. -/
def splitChunks : Nat → List Char → List Char → List (List Char)
  | _, cur, [] => [cur]
  | skip + 1, cur, c :: cs => splitChunks skip (cur ++ [c]) cs
  | 0, cur, '-' :: cs => cur :: splitChunks 2 [] cs
  | 0, cur, c :: cs => splitChunks 0 (cur ++ [c]) cs

/-- `chunk = pat[i:j]; if chunk: chunks.append(chunk) else: chunks[-1] += '-'`. -/
def closeChunks (chunks : List (List Char)) : List (List Char) :=
  match chunks.reverse with
  | [] :: prev :: rest => rest.reverse ++ [prev ++ ['-']]
  | _ => chunks

/-- The loop that removes empty ranges, from the right: a chunk whose last
character is above the next chunk's first loses both. -/
def mergeChunks : List (List Char) → List (List Char)
  | [] => []
  | c :: rest =>
      match mergeChunks rest with
      | [] => [c]
      | d :: ds =>
          match c.getLast?, d.head? with
          | some a, some b => if b < a then (c.dropLast ++ d.tail) :: ds else c :: d :: ds
          | _, _ => c :: d :: ds

/-- The body `translate` writes for the class `pat[i:j]`. -/
def setBody (region : List Char) : List SetAtom :=
  if '-' ∈ region then
    let skip := if region.head? = some '!' then 2 else 1
    List.intercalate [.dash] ((mergeChunks (closeChunks (splitChunks skip [] region))).map
      (List.map .lit))
  else region.map .lit

/-- The piece for a class body: empty never matches, `!` alone matches any
character, a leading `!` negates. -/
def setPiece (body : List SetAtom) : Piece :=
  match body with
  | [] => .never
  | [.lit '!'] => .anyChar
  | .lit '!' :: rest => .set true rest
  | _ => .set false body

/-- `translate`'s first loop, with `res` the pieces so far; `fuel` bounds the
characters left. -/
def translateGo : Nat → List Piece → List Char → List Piece
  | 0, res, _ => res
  | _, res, [] => res
  | fuel + 1, res, c :: rest =>
      if c = '*' then
        translateGo fuel (if res.getLast? = some .star then res else res ++ [.star]) rest
      else if c = '?' then translateGo fuel (res ++ [.anyChar]) rest
      else if c = '[' then
        match bracketEnd rest with
        | none => translateGo fuel (res ++ [.lit '[']) rest
        | some j => translateGo fuel (res ++ [setPiece (setBody (rest.take j))]) (rest.drop (j + 1))
      else translateGo fuel (res ++ [.lit c]) rest

/-- `fnmatch.translate(pat)`, up to the pass over stars. -/
def translate (pat : List Char) : List Piece :=
  translateGo pat.length [] pat

/-! ## Compilation -/

/-- A member of a compiled class. -/
inductive SetItem where
  | single (c : Char)
  | range (lo hi : Char)
  deriving DecidableEq, Repr

/-- Whether `c` is a member of a class item. -/
def SetItem.contains : SetItem → Char → Bool
  | .single a, c => c = a
  | .range lo hi, c => lo ≤ c && c ≤ hi

/-- `sre_parse`'s reading of a class body: an item followed by an unescaped
hyphen and another item is a range, unless the hyphen ends the body. -/
def readSet : List SetAtom → Except PyExc (List SetItem)
  | [] => .ok []
  | [a, .dash] => .ok [.single a.char, .single '-']
  | a :: .dash :: b :: rest =>
      if b.char < a.char then
        .error (.reError ("bad character range " ++ ⟨[a.char, '-', b.char]⟩))
      else (SetItem.range a.char b.char :: ·) <$> readSet rest
  | a :: rest => (SetItem.single a.char :: ·) <$> readSet rest

/-- A single-character piece of the compiled expression. -/
inductive Atom where
  | anyChar
  | lit (c : Char)
  | never
  | set (negated : Bool) (items : List SetItem)
  deriving DecidableEq, Repr

/-- Whether an atom matches the character `c`; `(?s:` lets `.` match a newline. -/
def Atom.matches : Atom → Char → Bool
  | .anyChar, _ => true
  | .lit a, c => c = a
  | .never, _ => false
  | .set negated items, c => items.any (·.contains c) != negated

/-- A piece after `re.compile`: `none` for a star. -/
def compilePiece : Piece → Except PyExc (Option Atom)
  | .star => .ok none
  | .anyChar => .ok (some .anyChar)
  | .lit c => .ok (some (.lit c))
  | .never => .ok (some .never)
  | .set negated body => (fun items => some (.set negated items)) <$> readSet body

/-- What follows the last interior block. -/
inductive Ending where
  /-- no star: `\Z` right after the first block -/
  | anchor
  /-- `.*` -/
  | star
  /-- `.*` then a fixed block, then `\Z` -/
  | starThen (fixed : List Atom)
  deriving DecidableEq, Repr

/-- `(?s:F0(?>.*?F1)...(?>.*?Fn)E)\Z`. -/
structure Regex where
  first : List Atom
  interior : List (List Atom)
  ending : Ending
  deriving DecidableEq, Repr

/-- The blocks of fixed pieces between stars. -/
def blocks : List (Option Atom) → List (List Atom)
  | [] => [[]]
  | none :: rest => [] :: blocks rest
  | some a :: rest =>
      match blocks rest with
      | [] => [[a]]
      | b :: bs => (a :: b) :: bs

/-- `translate`'s pass over stars, on the blocks between them. -/
def Regex.ofBlocks : List (List Atom) → Regex
  | [] => ⟨[], [], .anchor⟩
  | [f] => ⟨f, [], .anchor⟩
  | f :: rest =>
      ⟨f, rest.dropLast, match rest.getLast? with
        | some [] | none => .star
        | some last => .starThen last⟩

/-- `re.compile(translate(pat))`. -/
def compile (pieces : List Piece) : Except PyExc Regex :=
  (fun atoms => Regex.ofBlocks (blocks atoms)) <$> pieces.mapM compilePiece

/-! ## Matching -/

/-- A fixed block at the start of `s`: what is left after it. -/
def matchFixed : List Atom → List Char → Option (List Char)
  | [], s => some s
  | _ :: _, [] => none
  | a :: as, c :: s => if a.matches c then matchFixed as s else none

/-- `(?>.*?F)`: `F` at the leftmost place it matches, and what is left after it. -/
def searchFixed (f : List Atom) : List Char → Option (List Char)
  | [] => matchFixed f []
  | c :: s =>
      match matchFixed f (c :: s) with
      | some r => some r
      | none => searchFixed f s

/-- `re.match(regex, s)` succeeds on the whole of `s`. -/
def Regex.matches (r : Regex) (s : List Char) : Bool :=
  match matchFixed r.first s >>= fun s => r.interior.foldlM (fun s f => searchFixed f s) s with
  | none => false
  | some s =>
      match r.ending with
      | .anchor => s.isEmpty
      | .star => true
      | .starThen f => decide (f.length ≤ s.length) && (matchFixed f (s.drop (s.length - f.length))).isSome

/-- `fnmatch.filter(names, pat)` on POSIX, where `normcase` does nothing. -/
def fnmatchFilter (names : List String) (pat : String) : Except PyExc (List String) := do
  let r ← compile (translate pat.data)
  pure (names.filter fun name => r.matches name.data)

end TfK8s.Py
