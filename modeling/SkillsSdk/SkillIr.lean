/-
SkillsSdk/SkillIr.lean

The frontmatter of a SKILL.md and the fields read from it.

PyYAML is a parameter: a load returns some value or raises some exception, and
two loads of one text may end differently.  Of a value only what the package
asks is kept: whether it is a string or a dictionary, whether it is true, and
what `str(…)` makes of it, which may raise too.
-/
import SkillsSdk.Models.Validation

namespace SkillsSdk

/-! ### Exceptions and values -/

/-- The exception classes that some handler of the validators names, and the rest. -/
inductive PyExc where
  /-- `ValueError` and what derives from it, as `ContractError` and `ValidationError`. -/
  | valueError
  | unicodeDecodeError
  | osError
  | yamlError
  | typeError
  | keyError
  | recursionError
  /-- No handler names it: `AttributeError`, `IndexError`, `OverflowError` and so on. -/
  | other
  deriving DecidableEq

/-- `str(…)` of an integer. -/
def reprInt (i : Int) : Except PyExc Text :=
  if isLongInt i then .error .valueError else .ok (toString i).toList

/-- A loaded value; the key of a dictionary is a string or none. -/
inductive PyValue where
  | str (s : PyStr)
  | dict (items : List (Option PyStr × PyValue)) (shown : Except PyExc PyStr)
  | other (truthy : Bool) (shown : Except PyExc PyStr)

namespace PyValue

/-- `bool(value)`. -/
def truthy : PyValue → Bool
  | str s => s != []
  | dict items _ => !items.isEmpty
  | other t _ => t

/-- `str(value)`. -/
def shown : PyValue → Except PyExc PyStr
  | str s => .ok s
  | dict _ r => r
  | other _ r => r

/-- `value.get(key)` of a dictionary. -/
def get (items : List (Option PyStr × PyValue)) (key : String) : Option PyValue :=
  items.lookup (some (PyStr.lit key))

end PyValue

/-- The two places that load one frontmatter. -/
inductive LoadSite where
  | reading
  | building
  deriving DecidableEq

/-- `yaml.load(text, Loader=_UniqueKeyLoader)`. -/
abbrev YamlLoad := LoadSite → Text → Except PyExc PyValue

/-! ### Lines and blanks -/

/-- The line boundaries of `str.splitlines`. -/
def isLineBreak (c : Char) : Bool :=
  let n := c.toNat
  (0x0a ≤ n && n ≤ 0x0d) || (0x1c ≤ n && n ≤ 0x1e) || n == 0x85 || n == 0x2028 || n == 0x2029

def splitlinesFrom : Text → Text → List Text
  | [], line => if line = [] then [] else [line.reverse]
  | '\r' :: '\n' :: t, line => line.reverse :: splitlinesFrom t []
  | c :: t, line =>
    if isLineBreak c then line.reverse :: splitlinesFrom t [] else splitlinesFrom t (c :: line)

/-- `text.splitlines()`. -/
def splitlines (text : Text) : List Text := splitlinesFrom text []

def joinLines (lines : List Text) : Text := List.intercalate ['\n'] lines

def isSpacePy : PyChar → Bool
  | .scalar c => isSpace c
  | .surrogate _ => false

/-- `s.strip()`. -/
def PyStr.strip (s : PyStr) : PyStr := (s.dropWhile isSpacePy).rdropWhile isSpacePy

/-! ### The frontmatter -/

def isFence (line : Text) : Bool := SkillsSdk.strip line == "---".toList

/-- The lines between the fences and the lines after them, of a text that opens
with a fence and has another. -/
def fenced (text : Text) : Option (List Text × List Text) :=
  match splitlines text with
  | [] => none
  | first :: rest =>
    if isFence first = false then none
    else
      match rest.dropWhile (!isFence ·) with
      | [] => none
      | _ :: after => some (rest.takeWhile (!isFence ·), after)

/-- The frontmatter, the body and whether the frontmatter is closed. -/
structure Frontmatter where
  items : List (Option PyStr × PyValue)
  body : Text
  closed : Bool

variable (load : YamlLoad)

/-- The dictionary that a frontmatter text loads as. -/
def loadFrontmatter (site : LoadSite) (text : Text) :
    Except PyExc (List (Option PyStr × PyValue)) := do
  if SkillsSdk.strip text = [] then return []
  else
    match ← load site text with
    | .dict items _ => if items.any (·.1.isNone) then throw .valueError else return items
    | _ => throw .valueError

/-- `read_frontmatter`. -/
def readFrontmatter (site : LoadSite) (text : Text) : Except PyExc Frontmatter :=
  match fenced text with
  | none =>
    let opened := (splitlines text).head?.any isFence
    .ok ⟨[], if opened then [] else SkillsSdk.strip text, false⟩
  | some (inside, after) => do
    let items ← loadFrontmatter load site (joinLines inside)
    return ⟨items, SkillsSdk.strip (joinLines after), true⟩

structure SkillIR where
  name : PyStr
  nameDeclared : Bool
  version : PyStr
  description : PyStr
  frontmatter : List (Option PyStr × PyValue)
  body : Text

/-- `raw or default`, as a string. -/
def shownOr (raw : Option PyValue) (otherwise : Except PyExc PyStr) : Except PyExc PyStr :=
  match raw with
  | some v => if v.truthy then v.shown else otherwise
  | none => otherwise

/-- `str(raw_name or skill_md.parent.name)`. -/
def rawName (items : List (Option PyStr × PyValue)) (parentName : PyStr) : Except PyExc PyStr :=
  shownOr (PyValue.get items "name") (.ok parentName)

/-- `str(frontmatter.get("version") or metadata_version or "0.1.0")`. -/
def rawVersion (items : List (Option PyStr × PyValue)) : Except PyExc PyStr :=
  let metadataVersion :=
    match PyValue.get items "metadata" with
    | some (.dict metadata _) => PyValue.get metadata "version"
    | _ => none
  shownOr (PyValue.get items "version") (shownOr metadataVersion (.ok (PyStr.lit "0.1.0")))

/-- `build_skill_ir`, of the SKILL.md in a directory with the given name. -/
def buildSkillIr (parentName : PyStr) (text : Text) : Except PyExc SkillIR := do
  let fm ← readFrontmatter load .building text
  if fm.closed = false then throw .valueError
  else
    let name ← rawName fm.items parentName
    let version ← rawVersion fm.items
    let nameDeclared :=
      match PyValue.get fm.items "name" with
      | some (.str s) => s.strip != []
      | _ => false
    let description :=
      match PyValue.get fm.items "description" with
      | some (.str s) => s.strip
      | _ => []
    return {
      name := name.strip
      nameDeclared := nameDeclared
      version := if version.strip = [] then PyStr.lit "0.1.0" else version.strip
      description := description
      frontmatter := fm.items
      body := fm.body }

end SkillsSdk
