import TfK8s.Py.Fnmatch

/-!
# `glob.glob` over a tree of paths

The file system is the list of paths under the working directory, each once,
with whether it is a directory, in the order `os.scandir` lists them; there
are no symbolic links. A path string is resolved as the kernel resolves it:
component by component from the working directory, each step from a
directory, `.` and empty components staying put and `..` going up. Paths that
are absolute or climb above the working directory are outside the tree, and
resolve to nothing.

`glob` is CPython 3.11's `_iglob` without `recursive`, `root_dir` or `dir_fd`.
A pattern without `*`, `?` or `[` is looked up with `lexists`; otherwise its
directory part is globbed first (with only directories kept), and each
directory found is listed and filtered with `fnmatch` when the last component
has magic, or looked up when it has none. A listing skips names that start
with `.` unless the pattern does. A directory that cannot be listed lists
nothing, except that a NUL in its path raises `ValueError`.
-/

namespace TfK8s.Py

/-! ## Paths -/

/-- A name a directory entry can have on Linux. -/
def ValidName (n : String) : Prop :=
  n ≠ "" ∧ n ≠ "." ∧ n ≠ ".." ∧ '/' ∉ n.data ∧ '\x00' ∉ n.data ∧ n.utf8ByteSize ≤ 255

instance : DecidablePred ValidName := fun _ => inferInstanceAs (Decidable (_ ∧ _))

/-- `p.split('/')`. -/
def splitSlash : List Char → List (List Char)
  | [] => [[]]
  | c :: cs =>
      if c = '/' then [] :: splitSlash cs
      else
        match splitSlash cs with
        | [] => [[c]]
        | p :: ps => (c :: p) :: ps

/-- `posixpath.split(p)`: the part after the last `/`, and the part before it
with its trailing slashes removed unless it is all slashes. -/
def pathSplit (p : List Char) : List Char × List Char :=
  let head := (p.reverse.dropWhile (· ≠ '/')).reverse
  let tail := (p.reverse.takeWhile (· ≠ '/')).reverse
  (if head.all (· = '/') then head else (head.reverse.dropWhile (· = '/')).reverse, tail)

/-- `posixpath.join(a, b)`. -/
def pathJoin (a b : List Char) : List Char :=
  if b.head? = some '/' then b
  else if a.isEmpty || a.getLast? = some '/' then a ++ b
  else a ++ '/' :: b

/-- `glob._join`: when either side is empty, the other. -/
def globJoin (dirname basename : List Char) : List Char :=
  if dirname.isEmpty then basename
  else if basename.isEmpty then dirname
  else pathJoin dirname basename

/-- `glob.has_magic`. -/
def hasMagic (s : List Char) : Bool :=
  s.any fun c => c = '*' || c = '?' || c = '['

@[simp] theorem hasMagic_nil : hasMagic [] = false := rfl

@[simp] theorem hasMagic_cons (c : Char) (s : List Char) :
    hasMagic (c :: s) = (c = '*' || c = '?' || c = '[' || hasMagic s) := rfl

@[simp] theorem hasMagic_append (s u : List Char) :
    hasMagic (s ++ u) = (hasMagic s || hasMagic u) := List.any_append

/-- `glob._ishidden`. -/
def isHidden (path : List Char) : Bool :=
  path.head? = some '.'

/-! ## The tree -/

/-- The paths under the working directory, as lists of names, with whether
each is a directory; the working directory itself is the empty list. -/
structure FileTree where
  entries : List (List String × Bool)
  nodup : (entries.map (·.1)).Nodup
  not_root : ∀ e ∈ entries, e.1 ≠ []
  ancestors_dirs : ∀ e ∈ entries, ∀ q ∈ e.1.inits, q ≠ e.1 → q = [] ∨ (q, true) ∈ entries
  valid_names : ∀ e ∈ entries, ∀ n ∈ e.1, ValidName n

namespace FileTree

variable (t : FileTree)

/-- Whether `p` exists and is a directory, when it exists. -/
def kind (p : List String) : Option Bool :=
  if p = [] then some true else (t.entries.find? (·.1 = p)).map (·.2)

/-- Resolution from the directory `cur`, one component at a time. -/
def walk (cur : List String) : List String → Option (List String)
  | [] => some cur
  | c :: cs =>
      if t.kind cur ≠ some true then none
      else if c = "" ∨ c = "." then walk cur cs
      else if c = ".." then (if cur = [] then none else walk cur.dropLast cs)
      else if t.kind (cur ++ [c]) = none then none
      else walk (cur ++ [c]) cs

/-- What a path string names, if anything. -/
def resolve (p : List Char) : Option (List String) :=
  if p.isEmpty || p.head? = some '/' then none
  else t.walk [] ((splitSlash p).map String.mk)

/-- `os.path.lexists`. A NUL makes it false; so does the tree, whose names
have none. -/
def lexists (p : List Char) : Bool :=
  (t.resolve p).isSome

/-- `os.path.isdir`. -/
def isDir (p : List Char) : Bool :=
  match t.resolve p with
  | some q => t.kind q = some true
  | none => false

/-- The name of `p` when `p` is an entry of the directory `d`. -/
def childName (d p : List String) : Option String :=
  if p ≠ [] ∧ p.dropLast = d then p.getLast? else none

/-- `glob._listdir`: the names `os.scandir` lists, or only the directories. -/
def listdir (dirname : List Char) (dironly : Bool) : Except PyExc (List String) :=
  if '\x00' ∈ dirname then .error (.valueError "embedded null byte")
  else
    match t.resolve (if dirname.isEmpty then ['.'] else dirname) with
    | some d =>
        if t.kind d = some true then
          .ok (t.entries.filterMap fun e => if !dironly || e.2 then childName d e.1 else none)
        else .ok []
    | none => .ok []

/-- `glob._glob1`: the names in `dirname` that `pattern` matches. -/
def glob1 (dirname pattern : List Char) (dironly : Bool) : Except PyExc (List (List Char)) := do
  let names ← t.listdir dirname dironly
  let names := if isHidden pattern then names else names.filter fun n => !isHidden n.data
  let kept ← fnmatchFilter names ⟨pattern⟩
  pure (kept.map String.data)

/-- `glob._glob0`: `basename` if it exists in `dirname`. -/
def glob0 (dirname basename : List Char) : List (List Char) :=
  if basename.isEmpty then (if t.isDir dirname then [basename] else [])
  else if t.lexists (globJoin dirname basename) then [basename] else []

/-- `glob._iglob`; `fuel` bounds the length of `pathname`, which each
recursive call shortens. -/
def iglob : Nat → List Char → Bool → Except PyExc (List (List Char))
  | 0, _, _ => .ok []
  | fuel + 1, pathname, dironly =>
      let (dirname, basename) := pathSplit pathname
      if !hasMagic pathname then
        .ok (if basename.isEmpty then (if t.isDir dirname then [pathname] else [])
          else if t.lexists pathname then [pathname] else [])
      else if dirname.isEmpty then t.glob1 [] basename dironly
      else do
        let dirs ← if dirname ≠ pathname && hasMagic dirname then iglob fuel dirname true
          else pure [dirname]
        let found ← dirs.mapM fun d => do
          let names ← if hasMagic basename then t.glob1 d basename dironly
            else pure (t.glob0 d basename)
          pure (names.map (pathJoin d))
        pure found.flatten

/-- `glob.glob(pathname)`. -/
def glob (pathname : String) : Except PyExc (List String) :=
  (List.map String.mk) <$> t.iglob (pathname.length + 1) pathname.data false

/-! ## `recursive=True` -/

/-- `glob._rlistdir`: the names below `dirname`, each followed by the names
below it, skipping hidden ones; `fuel` bounds the depth, and the number of
entries is more than any. -/
def rlistdir : Nat → List Char → Bool → Except PyExc (List (List Char))
  | 0, _, _ => .ok []
  | fuel + 1, dirname, dironly => do
      let names ← t.listdir dirname dironly
      let found ← (names.filter fun x => !isHidden x.data).mapM fun x => do
        let below ← rlistdir fuel (globJoin dirname x.data) dironly
        pure (x.data :: below.map (globJoin x.data))
      pure found.flatten

/-- `glob._glob2`: the empty name, for `dirname` itself, then everything below it. -/
def glob2 (dirname : List Char) (dironly : Bool) : Except PyExc (List (List Char)) :=
  ([] :: ·) <$> t.rlistdir (t.entries.length + 1) dirname dironly

/-- `glob._iglob` with `recursive=True`: as `iglob`, except that a last
component `**` matches every directory below, with `glob2`. -/
def iglobRecursive : Nat → List Char → Bool → Except PyExc (List (List Char))
  | 0, _, _ => .ok []
  | fuel + 1, pathname, dironly =>
      let (dirname, basename) := pathSplit pathname
      if !hasMagic pathname then
        .ok (if basename.isEmpty then (if t.isDir dirname then [pathname] else [])
          else if t.lexists pathname then [pathname] else [])
      else if dirname.isEmpty then
        if basename = "**".data then t.glob2 [] dironly else t.glob1 [] basename dironly
      else do
        let dirs ← if dirname ≠ pathname && hasMagic dirname then iglobRecursive fuel dirname true
          else pure [dirname]
        let found ← dirs.mapM fun d => do
          let names ← if basename = "**".data then t.glob2 d dironly
            else if hasMagic basename then t.glob1 d basename dironly
            else pure (t.glob0 d basename)
          pure (names.map (pathJoin d))
        pure found.flatten

/-- `glob.glob(pathname, recursive=True)`, which drops the empty name `**`
yields first for a pattern that starts with it. -/
def globRecursive (pathname : String) : Except PyExc (List String) := do
  let found ← t.iglobRecursive (pathname.length + 1) pathname.data false
  let found := if pathname.data.take 2 = "**".data then found.filter (· ≠ []) else found
  pure (found.map String.mk)

end FileTree

/-! ## `posixpath.relpath` -/

/-- The components of `posixpath.normpath` of an absolute path, from those of
the path: empty ones and `.` dropped, and `..` removing the one before it, if
any. -/
def normComps : List String → List String → List String
  | acc, [] => acc.reverse
  | acc, c :: cs =>
      if c = "" ∨ c = "." then normComps acc cs
      else if c = ".." then normComps acc.tail cs
      else normComps (c :: acc) cs

/-- The components of `posixpath.abspath(p)`, with `cwd` the components of
`os.getcwd()`. -/
def absComps (cwd : List String) (p : List Char) : List String :=
  normComps [] ((if p.head? = some '/' then [] else cwd) ++ (splitSlash p).map String.mk)

/-- How many leading components two paths share: `len(commonprefix(...))`. -/
def commonLength : List String → List String → Nat
  | a :: as, b :: bs => if a = b then commonLength as bs + 1 else 0
  | _, _ => 0

/-- `"/".join(components)`. -/
def joinComps (components : List String) : List Char :=
  ['/'].intercalate (components.map String.data)

/-- `posixpath.relpath(path, start)` in the working directory `cwd`. -/
def relpath (cwd : List String) (path start : List Char) : Except PyExc (List Char) :=
  if path.isEmpty then .error (.valueError "no path specified")
  else
    let startList := absComps cwd start
    let pathList := absComps cwd path
    let i := commonLength startList pathList
    match List.replicate (startList.length - i) ".." ++ pathList.drop i with
    | [] => .ok ['.']
    | rel => .ok (joinComps rel)

end TfK8s.Py
