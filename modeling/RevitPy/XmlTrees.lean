import RevitPy.Dict

/-!
# Trees of XML elements

An element has a tag, attributes, maybe a text, and children. Parsing does not tell an empty text
from none, and returns the other texts as they were if they consist of characters that XML carries.
-/

namespace RevitPy

inductive Xml
  | element (tag : String) (attrib : Dict String String) (text : Option String) (children : List Xml)

namespace Xml

def tag : Xml → String
  | element tag _ _ _ => tag
def attrib : Xml → Dict String String
  | element _ attrib _ _ => attrib
def text : Xml → Option String
  | element _ _ text _ => text
def children : Xml → List Xml
  | element _ _ _ children => children

/-- `parent.find(tag)` -/
def find (parent : Xml) (tag : String) : Option Xml := parent.children.find? fun child => child.tag = tag
/-- `parent.findall(tag)` -/
def findall (parent : Xml) (tag : String) : List Xml := parent.children.filter fun child => child.tag = tag

/-- An element with nothing but a text. -/
def leaf (tag text : String) : Xml := element tag ∅ (some text) []

mutual
/-- What a parser returns for an element that was written. -/
def parsed : Xml → Xml
  | element tag attrib text children => element tag attrib (text.filter (· ≠ "")) (allParsed children)
def allParsed : List Xml → List Xml
  | [] => []
  | child :: children => child.parsed :: allParsed children
end

theorem allParsed_eq_map (children : List Xml) : allParsed children = children.map parsed := by
  induction children with
  | nil => rfl
  | cons child children ih => rw [allParsed, ih, List.map_cons]

/-- The characters that a parser returns as they were written, which the carriage return is not. -/
def carries (c : Char) : Bool :=
  c = '\t' || c = '\n' || (32 ≤ c.toNat && c.toNat ≤ 0xD7FF) || (0xE000 ≤ c.toNat && c.toNat ≤ 0xFFFD) || 0x10000 ≤ c.toNat

/-- The text consists of characters that XML carries. -/
def TextCarried (text : String) : Prop := ∀ c ∈ text.toList, carries c = true

/-- The tags are words, and all attributes and texts are carried. -/
inductive Carried : Xml → Prop
  | element {tag : String} {attrib : Dict String String} {text : Option String} {children : List Xml}
      (word : tag ≠ "" ∧ tag.toList.all Char.isAlpha) (attributes : ∀ item ∈ attrib.entries, item.1 ≠ "" ∧ item.1.toList.all Char.isAlpha ∧ TextCarried item.2)
      (content : ∀ t ∈ text, TextCarried t) (below : ∀ child ∈ children, Carried child) : Carried (.element tag attrib text children)

theorem leaf_carried {tag text : String} (word : tag ≠ "" ∧ tag.toList.all Char.isAlpha) (content : TextCarried text) : (leaf tag text).Carried :=
  .element word (by simp) (by simpa using content) (by simp)

@[simp] theorem tag_parsed (e : Xml) : e.parsed.tag = e.tag := by cases e; rfl
theorem text_parsed (e : Xml) : e.parsed.text = e.text.filter (· ≠ "") := by cases e; rfl
theorem children_parsed (e : Xml) : e.parsed.children = e.children.map parsed := by
  cases e
  exact allParsed_eq_map _
@[simp] theorem tag_leaf (tag text : String) : (leaf tag text).tag = tag := rfl
@[simp] theorem text_leaf (tag text : String) : (leaf tag text).text = some text := rfl

theorem find_parsed (e : Xml) (tag : String) : e.parsed.find tag = (e.find tag).map parsed := by
  rw [find, find, children_parsed, List.find?_map]
  simp only [Function.comp_def, tag_parsed]

theorem findall_parsed (e : Xml) (tag : String) : e.parsed.findall tag = (e.findall tag).map parsed := by
  rw [findall, findall, children_parsed, List.filter_map]
  simp only [Function.comp_def, tag_parsed]

end Xml
end RevitPy
