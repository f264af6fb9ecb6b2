import CommandScript.Pattern.CharSet
import CommandScript.Pattern.Data.Category
import CommandScript.Pattern.Data.Property
import CommandScript.Pattern.Data.Script

/-! Sets of characters by the name of a property. Names are compared without case, blanks,
dashes and underscores. -/

namespace CommandScript.Pattern.Property

structure Run where
  label : String
  first : Nat
  last : Nat

def readRuns (width : Nat) (lines : List String) : List Run :=
  let items := (lines.flatMap (·.splitOn " ")).map fun item =>
    let characters := item.toList
    (String.ofList (characters.take width),
      CharSet.readNat (String.ofList (characters.drop width)))
  (items.foldl (fun (runs, next) (label, length) =>
    (⟨label, next, next + length - 1⟩ :: runs, next + length)) (([], 0) : List Run × Nat)).1.reverse

def categoryTable : List Run := readRuns 2 Data.categoryRuns

def scriptTable : List Run := readRuns 4 Data.scriptRuns

def ofRuns (runs : List Run) (wanted : String → Bool) : CharSet :=
  .ofRanges ((runs.filter fun run => wanted run.label).map fun run => (run.first, run.last))

def categories (codes : List String) : CharSet :=
  ofRuns categoryTable codes.contains

/-- A name without what makes no difference: case, blanks, dashes, underscores and a leading
`is`, as well as characters of more than one byte. -/
def normalize (name : String) : String :=
  let lower := name.toList.map Char.toLower
  let (prefixed, body) : Bool × List Char :=
    match lower with
    | 'i' :: 's' :: rest => (true, rest)
    | rest => (false, rest)
  let plain := body.filter fun c => c != ' ' && c != '_' && c != '-' && decide (c.toNat < 0x80)
  if prefixed && plain == ['c'] then "isc" else String.ofList plain

def categoryNames : List (List String × List String) := [
  (["C", "Other"], ["Cc", "Cf", "Cn", "Co", "Cs"]),
  (["Cc", "Control", "cntrl"], ["Cc"]),
  (["Cf", "Format"], ["Cf"]),
  (["Cn", "Unassigned"], ["Cn"]),
  (["Co", "Private_Use"], ["Co"]),
  (["L", "Letter"], ["Ll", "Lm", "Lo", "Lt", "Lu"]),
  (["LC", "Cased_Letter"], ["Ll", "Lt", "Lu"]),
  (["Ll", "Lowercase_Letter"], ["Ll"]),
  (["Lm", "Modifier_Letter"], ["Lm"]),
  (["Lo", "Other_Letter"], ["Lo"]),
  (["Lt", "Titlecase_Letter"], ["Lt"]),
  (["Lu", "Uppercase_Letter"], ["Lu"]),
  (["M", "Mark", "Combining_Mark"], ["Mc", "Me", "Mn"]),
  (["Mc", "Spacing_Mark"], ["Mc"]),
  (["Me", "Enclosing_Mark"], ["Me"]),
  (["Mn", "Nonspacing_Mark"], ["Mn"]),
  (["N", "Number"], ["Nd", "Nl", "No"]),
  (["Nd", "Decimal_Number", "digit"], ["Nd"]),
  (["Nl", "Letter_Number"], ["Nl"]),
  (["No", "Other_Number"], ["No"]),
  (["P", "Punctuation", "punct"], ["Pc", "Pd", "Pe", "Pf", "Pi", "Po", "Ps"]),
  (["Pc", "Connector_Punctuation"], ["Pc"]),
  (["Pd", "Dash_Punctuation"], ["Pd"]),
  (["Pe", "Close_Punctuation"], ["Pe"]),
  (["Pf", "Final_Punctuation"], ["Pf"]),
  (["Pi", "Initial_Punctuation"], ["Pi"]),
  (["Po", "Other_Punctuation"], ["Po"]),
  (["Ps", "Open_Punctuation"], ["Ps"]),
  (["S", "Symbol"], ["Sc", "Sk", "Sm", "So"]),
  (["Sc", "Currency_Symbol"], ["Sc"]),
  (["Sk", "Modifier_Symbol"], ["Sk"]),
  (["Sm", "Math_Symbol"], ["Sm"]),
  (["So", "Other_Symbol"], ["So"]),
  (["Z", "Separator"], ["Zl", "Zp", "Zs"]),
  (["Zl", "Line_Separator"], ["Zl"]),
  (["Zp", "Paragraph_Separator"], ["Zp"]),
  (["Zs", "Space_Separator"], ["Zs"])]

def category? (name : String) : Option CharSet :=
  if name = "any" then some .all
  else if name = "ascii" then some (.range 0 0x7F)
  else if name = "assigned" then some ((categories ["Cn"]).complement CharSet.lastPoint)
  else
    (categoryNames.find? fun (names, _) => (names.map normalize).contains name).map
      fun (_, codes) => categories codes

def scriptCode? (name : String) : Option String :=
  if name = "qaac" then some "Copt"
  else if name = "qaai" then some "Zinh"
  else
    (Data.scriptNames.flatMap (·.splitOn " ")).findSome? fun item =>
      match item.splitOn "=" with
      | [code, long] => if normalize code = name ∨ normalize long = name then some code else none
      | _ => none

def script? (name : String) : Option CharSet :=
  (scriptCode? name).map fun code => ofRuns scriptTable (· == code)

def scriptExtension? (name : String) : Option CharSet :=
  (scriptCode? name).map fun code =>
    let own := ofRuns scriptTable (· == code)
    let listed := Data.scriptExtensions.map fun (codes, lines) =>
      ((codes.splitOn " ").contains code, CharSet.ofText lines)
    listed.foldl (fun s (used, points) => if used then s.union points else s.difference points) own

def ofRow (row : Data.PropertyRow) : CharSet :=
  ((categories (row.categories.splitOn " ")).union (.ofText row.others)).difference
    (.ofText row.exceptions)

def binary? (name : String) : Option CharSet :=
  let name := if name = "space" then "wspace" else name
  (Data.propertyRows.find? fun row => normalize row.name = name ∨ normalize row.shortName = name).map
    ofRow

def named? (name : String) : Option CharSet :=
  let name := normalize name
  (binary? name).or ((category? name).or (script? name))

def valued? (property value : String) : Option CharSet :=
  let property := normalize property
  let value := normalize value
  if property = "gc" ∨ property = "generalcategory" then category? value
  else if property = "sc" ∨ property = "script" then script? value
  else if property = "scx" ∨ property = "scriptextensions" then scriptExtension? value
  else none

def digits : CharSet := categories ["Nd"]

def whiteSpace : CharSet := (binary? "whitespace").getD .empty

def alphabetic : CharSet := (binary? "alphabetic").getD .empty

def numbers : CharSet := categories ["Nd", "Nl", "No"]

/-- The characters of words: letters and what counts as such, marks, digits, connectors and
joiners. -/
def wordCharacters : CharSet :=
  alphabetic.union
    ((categories ["Mc", "Me", "Mn", "Nd", "Pc"]).union ((binary? "joincontrol").getD .empty))

def asciiClass? : String → Option (List (Nat × Nat))
  | "alnum" => some [(0x30, 0x39), (0x41, 0x5A), (0x61, 0x7A)]
  | "alpha" => some [(0x41, 0x5A), (0x61, 0x7A)]
  | "ascii" => some [(0, 0x7F)]
  | "blank" => some [(9, 9), (0x20, 0x20)]
  | "cntrl" => some [(0, 0x1F), (0x7F, 0x7F)]
  | "digit" => some [(0x30, 0x39)]
  | "graph" => some [(0x21, 0x7E)]
  | "lower" => some [(0x61, 0x7A)]
  | "print" => some [(0x20, 0x7E)]
  | "punct" => some [(0x21, 0x2F), (0x3A, 0x40), (0x5B, 0x60), (0x7B, 0x7E)]
  | "space" => some [(9, 13), (0x20, 0x20)]
  | "upper" => some [(0x41, 0x5A)]
  | "word" => some [(0x30, 0x39), (0x41, 0x5A), (0x5F, 0x5F), (0x61, 0x7A)]
  | "xdigit" => some [(0x30, 0x39), (0x41, 0x46), (0x61, 0x66)]
  | _ => none

end CommandScript.Pattern.Property
