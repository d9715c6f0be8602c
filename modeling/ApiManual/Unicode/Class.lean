import ApiManual.Unicode.Age
import ApiManual.Unicode.Category
import ApiManual.Unicode.CharSet
import ApiManual.Unicode.Property
import ApiManual.Unicode.Script
import ApiManual.Unicode.ScriptExtension
import ApiManual.Unicode.Segmentation

/-!
Sets of characters by the names of their properties. Names are compared without regard to case,
spaces, hyphens, underscores and an initial `is`.
-/
namespace ApiManual.Unicode

/-- What counts of the name of a property. -/
def looseName (name : String) : String :=
  let chars := name.toList
  let (marked, body) := match chars with
    | a :: b :: rest =>
      if (a = 'i' || a = 'I') && (b = 's' || b = 'S') then (true, rest) else (false, chars)
    | _ => (false, chars)
  let kept := (body.filter fun c =>
    c.toNat < 0x80 && c ≠ ' ' && c ≠ '_' && c ≠ '-').map Char.toLower
  if marked && kept = ['c'] then "isc" else String.ofList kept

def isNamed (name : String) (names : List String) : Bool :=
  names.any fun other => looseName other = name

def tabled? (table : List (List String × String)) (name : String) : Option CharSet :=
  (table.find? fun (names, _) => isNamed name names).map fun (_, text) => setOfText text

def tabled (table : List (List String × String)) (name : String) : CharSet :=
  (tabled? table (looseName name)).getD CharSet.empty

def surrogates : CharSet := .ranges [(0xD800, 0xDFFF)]

def unassigned : CharSet :=
  .compl (categoryTables.foldl (fun set (_, text) => set.union (setOfText text)) surrogates)

def category (name : String) : CharSet :=
  if name = "Cn" then unassigned else tabled categoryTables name

def categories (names : List String) : CharSet := CharSet.unionAll (names.map category)

def listed (name : String) : CharSet := tabled propertyTables name

def category? (name : String) : Option CharSet :=
  if name = "any" then some CharSet.all
  else if name = "assigned" then some (.compl unassigned)
  else if name = "ascii" then some (.ranges [(0, 0x7F)])
  else if isNamed name ["Cn", "Unassigned"] then some unassigned
  else match categoryGroups.find? fun (names, _) => isNamed name names with
    | some (_, members) => some (categories members)
    | none => tabled? categoryTables name

def script? (name : String) : Option CharSet := tabled? scriptTables name

def scriptExtension? (name : String) : Option CharSet := do
  let (names, text) ← scriptTables.find? fun (names, _) => isNamed name names
  let all := scriptExtensionTables
  let used := all.filter fun (scripts, _) => scripts.any names.contains
  let own := (setOfText text).diff (CharSet.unionAll (all.map (setOfText ·.2)))
  return own.union (CharSet.unionAll (used.map (setOfText ·.2)))

def lowercase : CharSet := (category "Ll").union (listed "Other_Lowercase")

def uppercase : CharSet := (category "Lu").union (listed "Other_Uppercase")

def alphabetic : CharSet :=
  CharSet.unionAll [lowercase, uppercase, categories ["Lt", "Lm", "Lo", "Nl"],
    listed "Other_Alphabetic"]

def graphemeExtend : CharSet := (categories ["Me", "Mn"]).union (listed "Other_Grapheme_Extend")

def patternCharacters : CharSet := (listed "Pattern_Syntax").union (listed "Pattern_White_Space")

def idStart : CharSet :=
  ((categories ["Lu", "Ll", "Lt", "Lm", "Lo", "Nl"]).union (listed "Other_ID_Start")).diff
    patternCharacters

def idContinue : CharSet :=
  (CharSet.unionAll [idStart, categories ["Mn", "Mc", "Nd", "Pc"], listed "Other_ID_Continue"]).diff
    patternCharacters

def symmetric (a b : CharSet) : CharSet := (a.diff b).union (b.diff a)

def titlecased : CharSet :=
  symmetric (listed "Changes_When_Uppercased") (setOfText titlecasedUnlikeUppercased)

/-- The properties that follow from others, by their names. -/
def derivedProperties : List (List String × CharSet) := [
  (["Lower", "Lowercase"], lowercase),
  (["Upper", "Uppercase"], uppercase),
  (["Alpha", "Alphabetic"], alphabetic),
  (["Cased"], CharSet.unionAll [lowercase, uppercase, category "Lt"]),
  (["CI", "Case_Ignorable"],
    (categories ["Mn", "Me", "Cf", "Lm", "Sk"]).union (setOfText caseIgnorableExtra)),
  (["Math"], (category "Sm").union (listed "Other_Math")),
  (["IDS", "ID_Start"], idStart),
  (["IDC", "ID_Continue"], idContinue),
  (["XIDS", "XID_Start"], idStart.diff (setOfText notXidStart)),
  (["XIDC", "XID_Continue"], idContinue.diff (setOfText notXidContinue)),
  (["Gr_Ext", "Grapheme_Extend"], graphemeExtend),
  (["Gr_Base", "Grapheme_Base"],
    .compl (CharSet.unionAll [categories ["Cc", "Cf", "Co", "Cn", "Zl", "Zp"], surrogates,
      graphemeExtend])),
  (["CWT", "Changes_When_Titlecased"], titlecased),
  (["CWCM", "Changes_When_Casemapped"],
    CharSet.unionAll [titlecased, listed "Changes_When_Lowercased",
      listed "Changes_When_Uppercased"]),
  (["CWCF", "Changes_When_Casefolded"],
    symmetric (listed "Changes_When_Lowercased") (setOfText casefoldedUnlikeLowercased))]

def property? (name : String) : Option CharSet :=
  match derivedProperties.find? fun (names, _) => isNamed name names with
  | some (_, set) => some set
  | none => tabled? propertyTables name

/-- The characters that a version of Unicode and the ones before it assigned. -/
def age? (name : String) : Option CharSet := do
  let index ← ageTables.findIdx? fun (names, _) => isNamed name names
  return CharSet.unionAll ((ageTables.take (index + 1)).map (setOfText ·.2))

/-- The first syllables of Hangul in each group of 28, which have no final consonant. -/
def openSyllables : CharSet :=
  .ranges ((List.range 399).map fun i => (0xAC00 + 28 * i, 0xAC00 + 28 * i))

def graphemeBreak? (name : String) : Option CharSet :=
  if name = "lv" then some openSyllables
  else if name = "lvt" then some (CharSet.diff (.ranges [(0xAC00, 0xD7A3)]) openSyllables)
  else tabled? graphemeBreakTables name

/-- The set that one name stands for. The names `cf`, `sc` and `lc` are categories. -/
def namedSet? (name : String) : Option CharSet :=
  let name := looseName name
  let property := if ["cf", "sc", "lc"].contains name then none else property? name
  property <|> category? name <|> script? name

def valuedSet? (property value : String) : Option CharSet :=
  let property := looseName property
  let value := looseName value
  if isNamed property ["gc", "General_Category"] then category? value
  else if isNamed property ["sc", "Script"] then script? value
  else if isNamed property ["scx", "Script_Extensions"] then scriptExtension? value
  else if isNamed property ["age"] then age? value
  else if isNamed property ["GCB", "Grapheme_Cluster_Break"] then graphemeBreak? value
  else if isNamed property ["WB", "Word_Break"] then tabled? wordBreakTables value
  else if isNamed property ["SB", "Sentence_Break"] then tabled? sentenceBreakTables value
  else none

def decimalDigits : CharSet := category "Nd"

def whiteSpace : CharSet := listed "White_Space"

def wordCharacters : CharSet :=
  CharSet.unionAll [alphabetic, categories ["Mn", "Mc", "Me", "Nd", "Pc"], listed "Join_Control"]

def isAlphabetic (c : Char) : Bool := alphabetic.hasChar c

def isAlphanumeric (c : Char) : Bool :=
  isAlphabetic c || (categories ["Nd", "Nl", "No"]).hasChar c

end ApiManual.Unicode
