import OrderedLexer.Unicode.CharSet
import OrderedLexer.Unicode.Tables.Age
import OrderedLexer.Unicode.Tables.Binary
import OrderedLexer.Unicode.Tables.Break
import OrderedLexer.Unicode.Tables.Category
import OrderedLexer.Unicode.Tables.Name
import OrderedLexer.Unicode.Tables.Script
import OrderedLexer.Unicode.Tables.ScriptExtension

/-!
# Properties of characters, by name

* `category?`, `binary?`, `script?`, `scriptExtension?`, `age?`, `grapheme?`, `word?`, `sentence?`
  give the characters of a property value, by its official name. Derived properties are computed
  from primary ones as the standard defines them.
* `looseName` reduces a spelling, so that case, blanks, hyphens and underscores do not count.
* `classOf` answers a query. It tells an unknown property from an unknown value.
-/

namespace OrderedLexer.Unicode

/-! ### Tables -/

/-- The characters that a table gives for a name. -/
def tableSet? (table : List (String × String)) (name : String) : Option CharSet :=
  (table.lookup name).map CharSet.ofHex

/-- The official name whose entry lists the reduced spelling. -/
def officialName? (names : List (String × List String)) (spelling : String) : Option String :=
  (names.find? (·.2.contains spelling)).map (·.1)

/-! ### General categories -/

/-- The union of the categories with the given short names. -/
def categories (names : List String) : CharSet :=
  CharSet.unions (names.filterMap (tableSet? categoryTable))

def assigned : CharSet := CharSet.unions (categoryTable.map (CharSet.ofHex ·.2))

/-- The characters of a category or of a group of categories. No character is a surrogate, so `Cs`
    has no set. -/
def category? (name : String) : Option CharSet :=
  match name with
  | "Any" => some CharSet.univ
  | "ASCII" => some (CharSet.range 0 0x7F)
  | "Assigned" => some assigned
  | "Cn" => some assigned.compl
  | "C" => some ((categories ["Cc", "Cf", "Co"]).union assigned.compl)
  | "L" => some (categories ["Lu", "Ll", "Lt", "Lm", "Lo"])
  | "LC" => some (categories ["Lu", "Ll", "Lt"])
  | "M" => some (categories ["Mn", "Mc", "Me"])
  | "N" => some (categories ["Nd", "Nl", "No"])
  | "P" => some (categories ["Pc", "Pd", "Ps", "Pe", "Pi", "Pf", "Po"])
  | "S" => some (categories ["Sm", "Sc", "Sk", "So"])
  | "Z" => some (categories ["Zs", "Zl", "Zp"])
  | _ => tableSet? categoryTable name

/-- The category that a reduced spelling names; `Any`, `Assigned` and `ASCII` count as
    categories. -/
def categoryName? (spelling : String) : Option String :=
  match spelling with
  | "any" => some "Any"
  | "assigned" => some "Assigned"
  | "ascii" => some "ASCII"
  | _ => officialName? categoryNames spelling

/-! ### Binary properties -/

/-- The union of the primary binary properties with the given names. -/
def primary (names : List String) : CharSet :=
  CharSet.unions (names.filterMap (tableSet? binaryTable))

/-- The characters with the property `White_Space`. -/
def whiteSpace : CharSet :=
  ⟨[(0x9, 0xD), (0x20, 0x20), (0x85, 0x85), (0xA0, 0xA0), (0x1680, 0x1680), (0x2000, 0x200A),
    (0x2028, 0x2029), (0x202F, 0x202F), (0x205F, 0x205F), (0x3000, 0x3000)]⟩

def alphabetic : CharSet :=
  (categories ["Lu", "Ll", "Lt", "Lm", "Lo", "Nl"]).union (primary ["Other_Alphabetic"])

def lowercase : CharSet := (categories ["Ll"]).union (primary ["Other_Lowercase"])

def uppercase : CharSet := (categories ["Lu"]).union (primary ["Other_Uppercase"])

def graphemeExtend : CharSet := (categories ["Mn", "Me"]).union (primary ["Other_Grapheme_Extend"])

/-- The characters reserved for patterns, which no identifier holds. -/
def patternChars : CharSet := primary ["Pattern_Syntax", "Pattern_White_Space"]

def idStart : CharSet :=
  ((categories ["Lu", "Ll", "Lt", "Lm", "Lo", "Nl"]).union (primary ["Other_ID_Start"])).diff
    patternChars

def idContinue : CharSet :=
  (CharSet.unions [idStart, categories ["Mn", "Mc", "Nd", "Pc"],
    primary ["Other_ID_Continue"]]).diff patternChars

def defaultIgnorable : CharSet :=
  (CharSet.unions [primary ["Other_Default_Ignorable_Code_Point", "Variation_Selector"],
    categories ["Cf"]]).diff
    (CharSet.unions [whiteSpace, CharSet.range 0xFFF9 0xFFFB, CharSet.range 0x13430 0x1343F,
      primary ["Prepended_Concatenation_Mark"]])

def graphemeBase : CharSet :=
  (assigned.diff (categories ["Cc", "Cf", "Co", "Zl", "Zp"])).diff graphemeExtend

/-- The characters of a binary property, by its long name. -/
def binary? (name : String) : Option CharSet :=
  match name with
  | "Alphabetic" => some alphabetic
  | "Case_Ignorable" => some (CharSet.unions [categories ["Mn", "Me", "Cf", "Lm", "Sk"],
      CharSet.unions (["MidLetter", "MidNumLet", "Single_Quote"].filterMap (tableSet? wordTable))])
  | "Cased" => some (CharSet.unions [lowercase, uppercase, categories ["Lt"]])
  | "Changes_When_Casemapped" => some (primary
      ["Changes_When_Lowercased", "Changes_When_Titlecased", "Changes_When_Uppercased"])
  | "Default_Ignorable_Code_Point" => some defaultIgnorable
  | "Grapheme_Base" => some graphemeBase
  | "Grapheme_Extend" => some graphemeExtend
  | "ID_Continue" => some idContinue
  | "ID_Start" => some idStart
  | "Lowercase" => some lowercase
  | "Math" => some ((categories ["Sm"]).union (primary ["Other_Math"]))
  | "Uppercase" => some uppercase
  | "White_Space" => some whiteSpace
  | "XID_Continue" => some (idContinue.diff (primary ["XID_Continue_Exclusion"]))
  | "XID_Start" => some (idStart.diff (primary ["XID_Start_Exclusion"]))
  | _ => tableSet? binaryTable name

/-- The characters that count as part of a word. -/
def wordChars : CharSet :=
  CharSet.unions [alphabetic, categories ["Mn", "Mc", "Me", "Nd", "Pc"], primary ["Join_Control"]]

def decimalDigits : CharSet := categories ["Nd"]

/-! ### Scripts and ages -/

def script? (name : String) : Option CharSet := tableSet? scriptTable name

/-- The characters that are used with a script. -/
def scriptExtension? (name : String) : Option CharSet :=
  (script? name).map fun s => s.symmDiff ((tableSet? scriptExtensionTable name).getD CharSet.empty)

/-- The characters that a version of the standard has, older ones included. -/
def age? (version : String) : Option CharSet :=
  let (older, rest) := ageTable.span (·.1 != version)
  rest.head?.map fun e => CharSet.unions ((older ++ [e]).map (CharSet.ofHex ·.2))

/-! ### Segmentation classes -/

/-- The Hangul syllables without a final consonant. -/
def openSyllables : CharSet := ⟨(List.range 399).map fun k => (0xAC00 + 28 * k, 0xAC00 + 28 * k)⟩

/-- The characters of a grapheme cluster class. -/
def grapheme? (name : String) : Option CharSet :=
  match name with
  | "Extend" => some ((graphemeExtend.union (primary ["Emoji_Modifier"])).diff
      (CharSet.range 0x200D 0x200D))
  | "LV" => some openSyllables
  | "LVT" => some ((CharSet.range 0xAC00 0xD7A3).diff openSyllables)
  | "Regional_Indicator" => some (primary ["Regional_Indicator"])
  | "SpacingMark" => some (((categories ["Mc"]).union (CharSet.ofRanges [(0xE33, 0xE33),
      (0xEB3, 0xEB3)])).diff (graphemeExtend.union (CharSet.ofHex looseSpacingMarks)))
  | _ => tableSet? graphemeTable name

/-- The characters of a word class. -/
def word? (name : String) : Option CharSet :=
  match name with
  | "Extend" => some ((CharSet.unions [graphemeExtend, categories ["Mc"],
      primary ["Emoji_Modifier"]]).diff (CharSet.range 0x200D 0x200D))
  | "Numeric" => some (decimalDigits.union (CharSet.range 0x66B 0x66B))
  | "Regional_Indicator" => some (primary ["Regional_Indicator"])
  | _ => tableSet? wordTable name

/-- The marks that continue a sentence element. -/
def sentenceExtend : CharSet :=
  CharSet.unions [graphemeExtend, categories ["Mc"], CharSet.range 0x200D 0x200D]

def sentenceLower : CharSet := (lowercase.diff graphemeExtend).diff (CharSet.range 0x10D0 0x10FF)

def sentenceUpper : CharSet :=
  ((categories ["Lt"]).union uppercase).diff (CharSet.range 0x1C90 0x1CBF)

/-- The characters of a sentence class. -/
def sentence? (name : String) : Option CharSet :=
  match name with
  | "Extend" => some sentenceExtend
  | "Lower" => some sentenceLower
  | "Numeric" => some (decimalDigits.union (CharSet.range 0x66B 0x66C))
  | "OLetter" => some ((alphabetic.union (CharSet.range 0x5F3 0x5F3)).diff
      (CharSet.unions [sentenceLower, sentenceUpper, sentenceExtend]))
  | "STerm" => some ((primary ["Sentence_Terminal"]).diff
      ((tableSet? sentenceTable "ATerm").getD CharSet.empty))
  | "Upper" => some sentenceUpper
  | _ => tableSet? sentenceTable name

/-! ### Queries -/

/-- What a pattern asks for: a name alone, or a value of a property. -/
inductive ClassName where
  | named (name : String)
  | valued (property value : String)
deriving DecidableEq

inductive ClassFault where
  | unknownProperty
  | unknownValue
deriving DecidableEq

/-- Keep the ASCII characters but blanks, hyphens and underscores, letters in lower case. -/
def reduce (cs : List Char) : List Char :=
  (cs.filter fun c => c.toNat < 0x80 && c != ' ' && c != '_' && c != '-').map Char.toLower

/-- The reduced spelling of a name. A leading `is` does not count, except that `isc` is a name. -/
def looseName (name : String) : String :=
  match name.toList with
  | i :: s :: rest =>
    if i.toLower = 'i' && s.toLower = 's' then
      let rest := reduce rest
      if rest = ['c'] then "isc" else String.ofList rest
    else String.ofList (reduce (i :: s :: rest))
  | cs => String.ofList (reduce cs)

def orFault (fault : ClassFault) : Option α → Except ClassFault α
  | some a => .ok a
  | none => .error fault

/-- The characters of a class named without a property. Properties come first, except that `cf`,
    `sc` and `lc` name categories. -/
def namedClass (spelling : String) : Except ClassFault CharSet :=
  let isCategory := spelling = "cf" || spelling = "sc" || spelling = "lc"
  let isProperty := (officialName? valuedNames spelling).isSome || otherNames.contains spelling
  if !isCategory && isProperty then .error .unknownProperty
  else match officialName? binaryNames spelling with
    | some name => orFault .unknownProperty (binary? name)
    | none => match categoryName? spelling with
      | some name => orFault .unknownValue (category? name)
      | none => match officialName? scriptNames spelling with
        | some name => orFault .unknownValue (script? name)
        | none => .error .unknownProperty

/-- The characters that have a value of a property. -/
def valuedClass (property value : String) : Except ClassFault CharSet :=
  let among (names : List (String × List String)) (set? : String → Option CharSet) :=
    orFault .unknownValue ((officialName? names value).bind set?)
  match officialName? valuedNames property with
  | some "General_Category" => orFault .unknownValue ((categoryName? value).bind category?)
  | some "Script" => among scriptNames script?
  | some "Script_Extensions" => among scriptNames scriptExtension?
  | some "Age" => among ageNames age?
  | some "Grapheme_Cluster_Break" => among graphemeNames grapheme?
  | some "Word_Break" => among wordNames word?
  | some "Sentence_Break" => among sentenceNames sentence?
  | _ =>
    if (officialName? binaryNames property).isSome || otherNames.contains property then
      .error .unknownValue
    else .error .unknownProperty

/-- The characters that a query asks for. -/
def classOf : ClassName → Except ClassFault CharSet
  | .named name => namedClass (looseName name)
  | .valued property value => valuedClass (looseName property) (looseName value)

end OrderedLexer.Unicode
