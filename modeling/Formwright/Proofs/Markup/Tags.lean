import Formwright.Component.Template
import Formwright.Proofs.Text.Scan

/-!
Reading markup by its tags. A start tag is a name and attributes, each behind blanks and
with its value in double quotes; a value ends at the next double quote. An end tag closes
the innermost open element and no other. What stands between tags is text. The elements
around a piece of markup do not change how it is read, so it is enough to say of each
piece which nodes it reads as.
-/

namespace Formwright

open Text (doubleQuote)
open Template (attr)

/-- A node of markup that was read. -/
inductive Node where
  | text (t : Text)
  | element (name : Text) (attributes : List (Text × Text)) (content : List Node)

/-- The node of a text between two tags, when there is a text. -/
def Node.ofText (t : Text) : List Node :=
  if t = [] then [] else [.text t]

namespace Markup

def blanks : Text := lit " \t\n\r\x0c"

def isBlank (c : CodePoint) : Bool :=
  c ∈ blanks

/-- Whether a sign can stand in the name of an element or an attribute. -/
def isNameSign (c : CodePoint) : Bool :=
  c ∉ blanks ++ lit "\"'<>/="

/-- What has been read of a start tag. -/
structure StartTag where
  name : Text
  attributes : List (Text × Text)

/-- An element that is still open, and its siblings in front of it. -/
structure OpenElement extends StartTag where
  before : List Node

/-- What a reader is in the middle of. -/
inductive Part where
  | text (t : Text)
  /-- Behind the sign that a tag starts with. -/
  | opening
  | name (name : Text)
  /-- Behind blanks in a start tag. -/
  | gap (tag : StartTag)
  | attribute (tag : StartTag) (name : Text)
  /-- Behind the equals sign of an attribute. -/
  | equals (tag : StartTag) (name : Text)
  | value (tag : StartTag) (name value : Text)
  /-- Behind the value of an attribute. -/
  | quoted (tag : StartTag)
  | closing (name : Text)

/-- Where a reader stands: the open elements, innermost first, and what it has read of the
content of the innermost. -/
structure Position where
  enclosing : List OpenElement
  content : List Node
  part : Part

namespace Position

/-- How a start tag goes on behind its name or an attribute. -/
def inTag? (p : Position) (tag : StartTag) (c : CodePoint) : Option Position :=
  if isBlank c then some ⟨p.enclosing, p.content, .gap tag⟩
  else if c = .scalar '>' then some ⟨⟨tag, p.content⟩ :: p.enclosing, [], .text []⟩
  else none

/-- The position behind an end tag. -/
def close? (p : Position) (name : Text) : Option Position :=
  match p.enclosing with
  | [] => none
  | element :: enclosing =>
    if element.name = name then
      some ⟨enclosing, element.before ++ [.element name element.attributes p.content], .text []⟩
    else none

def step? (p : Position) (c : CodePoint) : Option Position :=
  let goOn (part : Part) : Option Position := some ⟨p.enclosing, p.content, part⟩
  match p.part with
  | .text t =>
    if c = .scalar '<' then some ⟨p.enclosing, p.content ++ Node.ofText t, .opening⟩
    else goOn (.text (t ++ [c]))
  | .opening =>
    if c = .scalar '/' then goOn (.closing [])
    else if isNameSign c then goOn (.name [c])
    else none
  | .name name => if isNameSign c then goOn (.name (name ++ [c])) else p.inTag? ⟨name, []⟩ c
  | .gap tag => if isNameSign c then goOn (.attribute tag [c]) else p.inTag? tag c
  | .attribute tag name =>
    if isNameSign c then goOn (.attribute tag (name ++ [c]))
    else if c = .scalar '=' then goOn (.equals tag name)
    else none
  | .equals tag name => if c = doubleQuote then goOn (.value tag name []) else none
  | .value tag name value =>
    if c = doubleQuote then goOn (.quoted ⟨tag.name, tag.attributes ++ [(name, value)]⟩)
    else goOn (.value tag name (value ++ [c]))
  | .quoted tag => p.inTag? tag c
  | .closing name =>
    if isNameSign c then goOn (.closing (name ++ [c]))
    else if c = .scalar '>' then p.close? name
    else none

/-- The nodes that were read when the markup ends here; it may not end in a tag or an element. -/
def finish? : Position → Option (List Node)
  | ⟨[], content, .text t⟩ => some (content ++ Node.ofText t)
  | _ => none

end Position

/-- The nodes that a markup consists of, if it is well formed. -/
def read? (markup : Text) : Option (List Node) :=
  (markup.foldlM Position.step? ⟨[], [], .text []⟩).bind Position.finish?

/-- Whether a reader gets from one position to the other by a text. -/
abbrev Leads (t : Text) (p q : Position) : Prop :=
  Scans Position.step? t p q

def IsName (t : Text) : Prop :=
  t ≠ [] ∧ ∀ c ∈ t, isNameSign c

instance (t : Text) : Decidable (IsName t) :=
  inferInstanceAs (Decidable (_ ∧ _))

def IsGap (t : Text) : Prop :=
  t ≠ [] ∧ ∀ c ∈ t, isBlank c

instance (t : Text) : Decidable (IsGap t) :=
  inferInstanceAs (Decidable (_ ∧ _))

/-- Whether a name and a value make an attribute. -/
def IsAttribute (a : Text × Text) : Prop :=
  IsName a.1 ∧ doubleQuote ∉ a.2

instance (a : Text × Text) : Decidable (IsAttribute a) :=
  inferInstanceAs (Decidable (_ ∧ _))

/-- Attributes of one tag, each behind the same blanks. -/
def attributesText (gap : Text) (attributes : List (Text × Text)) : Text :=
  attributes.flatMap fun (name, value) => gap ++ attr name value

def startTag (gap name : Text) (attributes : List (Text × Text)) : Text :=
  lit "<" ++ name ++ attributesText gap attributes ++ lit ">"

def endTag (name : Text) : Text :=
  lit "</" ++ name ++ lit ">"

section

variable {c : CodePoint} {enclosing : List OpenElement} {content : List Node}

theorem not_isNameSign_of_isBlank (h : isBlank c) : isNameSign c = false := by
  have hmem : c ∈ blanks := by simpa [isBlank] using h
  simp [isNameSign, hmem]

theorem ne_slash_of_isNameSign (h : isNameSign c) : c ≠ .scalar '/' := by
  rintro rfl
  exact absurd h (by decide)

/-- What has been read of a start tag behind its name or an attribute. -/
def Part.tag? : Part → Option StartTag
  | .name tagName => some ⟨tagName, []⟩
  | .gap tag | .quoted tag => some tag
  | _ => none

/-- Behind its name, behind blanks and behind an attribute a start tag goes on in one way. -/
theorem step?_of_tag? {part : Part} {tag : StartTag} (h : part.tag? = some tag)
    (hc : isNameSign c = false) : Position.step? ⟨enclosing, content, part⟩ c =
      Position.inTag? ⟨enclosing, content, part⟩ tag c := by
  cases part <;> simp only [Part.tag?, Option.some.injEq, reduceCtorEq] at h <;> subst h <;>
    simp [Position.step?, hc, Position.inTag?]

/-- A part that keeps what was read since it started collects the signs that keep it going. -/
theorem leads_collect {t : Text} (make : Text → Part)
    (h : ∀ c ∈ t, ∀ s, Position.step? ⟨enclosing, content, make s⟩ c =
      some ⟨enclosing, content, make (s ++ [c])⟩) (s : Text) :
    Leads t ⟨enclosing, content, make s⟩ ⟨enclosing, content, make (s ++ t)⟩ :=
  Scans.collect (fun s => (⟨enclosing, content, make s⟩ : Position)) h s

theorem leads_text {t : Text} (h : .scalar '<' ∉ t) (s : Text) :
    Leads t ⟨enclosing, content, .text s⟩ ⟨enclosing, content, .text (s ++ t)⟩ := by
  apply leads_collect .text
  intro c hc s
  have hne : c ≠ .scalar '<' := fun hlt => h (hlt ▸ hc)
  simp [Position.step?, hne]

theorem leads_gap {part : Part} {tag : StartTag} (h : part.tag? = some tag) {gap : Text}
    (hgap : IsGap gap) :
    Leads gap ⟨enclosing, content, part⟩ ⟨enclosing, content, .gap tag⟩ := by
  have hblank {part : Part} (h : part.tag? = some tag) {c : CodePoint} (hc : isBlank c) :
      Position.step? ⟨enclosing, content, part⟩ c = some ⟨enclosing, content, .gap tag⟩ := by
    rw [step?_of_tag? h (not_isNameSign_of_isBlank hc), Position.inTag?, if_pos hc]
  obtain ⟨hne, hall⟩ := hgap
  obtain ⟨c, gap, rfl⟩ := List.exists_cons_of_ne_nil hne
  rw [List.forall_mem_cons] at hall
  exact .cons (hblank h hall.1) (.of_forall fun c hc => hblank rfl (hall.2 c hc))

theorem leads_value {value : Text} (h : doubleQuote ∉ value) (tag : StartTag) (name : Text) :
    Leads value ⟨enclosing, content, .value tag name []⟩
      ⟨enclosing, content, .value tag name value⟩ := by
  apply @leads_collect _ _ _ (.value tag name) _ []
  intro c hc s
  have hne : c ≠ doubleQuote := fun hquote => h (hquote ▸ hc)
  simp [Position.step?, hne]

/-- An attribute is read from behind the blanks in front of it. -/
theorem leads_attr {name value : Text} (hname : IsName name) (hvalue : doubleQuote ∉ value)
    (tag : StartTag) :
    Leads (attr name value) ⟨enclosing, content, .gap tag⟩
      ⟨enclosing, content, .quoted ⟨tag.name, tag.attributes ++ [(name, value)]⟩⟩ := by
  obtain ⟨hne, hall⟩ := hname
  obtain ⟨c, name, rfl⟩ := List.exists_cons_of_ne_nil hne
  rw [List.forall_mem_cons] at hall
  have hfirst : Leads [c] ⟨enclosing, content, .gap tag⟩
      ⟨enclosing, content, .attribute tag [c]⟩ := by
    refine .cons ?_ (.nil _)
    simp [Position.step?, hall.1]
  have hrest := @leads_collect enclosing content name (.attribute tag)
    (fun d hd s => by simp [Position.step?, hall.2 d hd]) [c]
  have hopening : Leads (lit "=\"") ⟨enclosing, content, .attribute tag (c :: name)⟩
      ⟨enclosing, content, .value tag (c :: name) []⟩ := rfl
  have hclosing : Leads (lit "\"") ⟨enclosing, content, .value tag (c :: name) value⟩
      ⟨enclosing, content, .quoted ⟨tag.name, tag.attributes ++ [(c :: name, value)]⟩⟩ := rfl
  exact (((hfirst.append hrest).append hopening).append (leads_value hvalue tag _)).append hclosing

/-- Attributes add to those that a start tag has already. -/
theorem leads_attributesText {gap : Text} (hgap : IsGap gap) {attributes : List (Text × Text)}
    (h : ∀ a ∈ attributes, IsAttribute a) {part : Part} {tag : StartTag}
    (hpart : part.tag? = some tag) :
    ∃ part', part'.tag? = some ⟨tag.name, tag.attributes ++ attributes⟩ ∧
      Leads (attributesText gap attributes) ⟨enclosing, content, part⟩
        ⟨enclosing, content, part'⟩ := by
  induction attributes generalizing part tag with
  | nil => exact ⟨part, by simp [hpart], .nil _⟩
  | cons first attributes ih =>
    rw [List.forall_mem_cons] at h
    obtain ⟨part', hpart', hrest⟩ := @ih h.2 (.quoted ⟨tag.name, tag.attributes ++ [first]⟩) _ rfl
    have hfirst : Leads (gap ++ attr first.1 first.2) ⟨enclosing, content, part⟩
        ⟨enclosing, content, .quoted ⟨tag.name, tag.attributes ++ [first]⟩⟩ :=
      (leads_gap hpart hgap).append (leads_attr h.1.1 h.1.2 tag)
    refine ⟨part', ?_, hfirst.append hrest⟩
    rw [hpart', List.append_assoc]
    rfl

/-- A start tag opens an element behind the text in front of it. -/
theorem leads_startTag {gap name : Text} (hgap : IsGap gap) (hname : IsName name)
    {attributes : List (Text × Text)} (h : ∀ a ∈ attributes, IsAttribute a)
    (t : Text) :
    Leads (startTag gap name attributes) ⟨enclosing, content, .text t⟩
      ⟨⟨⟨name, attributes⟩, content ++ Node.ofText t⟩ :: enclosing, [], .text []⟩ := by
  obtain ⟨hne, hall⟩ := hname
  obtain ⟨c, name, rfl⟩ := List.exists_cons_of_ne_nil hne
  rw [List.forall_mem_cons] at hall
  have hopening : Leads (lit "<" ++ [c]) ⟨enclosing, content, .text t⟩
      ⟨enclosing, content ++ Node.ofText t, .name [c]⟩ := by
    refine .cons rfl (.cons ?_ (.nil _))
    simp [Position.step?, hall.1, ne_slash_of_isNameSign hall.1]
  have hname := @leads_collect enclosing (content ++ Node.ofText t) name .name
    (fun d hd s => by simp [Position.step?, hall.2 d hd]) [c]
  obtain ⟨part, hpart, hattributes⟩ := @leads_attributesText enclosing (content ++ Node.ofText t)
    _ hgap _ h (.name (c :: name)) ⟨c :: name, []⟩ rfl
  have hclosing : Leads (lit ">") ⟨enclosing, content ++ Node.ofText t, part⟩
      ⟨⟨⟨c :: name, attributes⟩, content ++ Node.ofText t⟩ :: enclosing, [], .text []⟩ := by
    refine .cons ?_ (.nil _)
    rw [step?_of_tag? hpart (by decide)]
    rfl
  have hall := ((hopening.append hname).append hattributes).append hclosing
  simpa [startTag, lit] using hall

/-- An end tag closes the innermost element, with the text in front of it. -/
theorem leads_endTag {name : Text} (hname : IsName name) (attributes : List (Text × Text))
    (before : List Node) (t : Text) :
    Leads (endTag name) ⟨⟨⟨name, attributes⟩, before⟩ :: enclosing, content, .text t⟩
      ⟨enclosing, before ++ [.element name attributes (content ++ Node.ofText t)], .text []⟩ := by
  have hopening : Leads (lit "</") ⟨⟨⟨name, attributes⟩, before⟩ :: enclosing, content, .text t⟩
      ⟨⟨⟨name, attributes⟩, before⟩ :: enclosing, content ++ Node.ofText t, .closing []⟩ := rfl
  have hread := @leads_collect (⟨⟨name, attributes⟩, before⟩ :: enclosing)
    (content ++ Node.ofText t) name .closing
    (fun c hc s => by simp [Position.step?, hname.2 c hc]) []
  have hend : isNameSign (.scalar '>') = false := by decide
  have hstep : Position.step?
      ⟨⟨⟨name, attributes⟩, before⟩ :: enclosing, content ++ Node.ofText t, .closing name⟩
      (.scalar '>') = some ⟨enclosing,
        before ++ [.element name attributes (content ++ Node.ofText t)], .text []⟩ := by
    simp [Position.step?, Position.close?, hend]
  exact (hopening.append hread).append (.cons hstep (.nil _))

end

/-- Whether a text reads as nodes wherever it stands between tags. -/
def ReadsAs (t : Text) (nodes : List Node) : Prop :=
  ∀ enclosing content,
    Leads t ⟨enclosing, content, .text []⟩ ⟨enclosing, content ++ nodes, .text []⟩

theorem ReadsAs.append {s t : Text} {nodes nodes' : List Node} (hs : ReadsAs s nodes)
    (ht : ReadsAs t nodes') : ReadsAs (s ++ t) (nodes ++ nodes') := by
  intro enclosing content
  have hrest := ht enclosing (content ++ nodes)
  rw [List.append_assoc] at hrest
  exact (hs enclosing content).append hrest

theorem readsAs_nil : ReadsAs [] [] := by
  intro enclosing content
  rw [List.append_nil]
  exact .nil _

theorem readsAs_flatMap {α : Type} {l : List α} {write : α → Text} {nodes : α → List Node}
    (h : ∀ a ∈ l, ReadsAs (write a) (nodes a)) : ReadsAs (l.flatMap write) (l.flatMap nodes) := by
  induction l with
  | nil => exact readsAs_nil
  | cons a l ih =>
    rw [List.forall_mem_cons] at h
    exact h.1.append (ih h.2)

/-- A tag with its attributes in order, what it contains and the tag that ends it read as an
element, behind the text in front of it. -/
theorem readsAs_element {gap name inner front tail : Text} {attributes : List (Text × Text)}
    {nodes : List Node} (hgap : IsGap gap) (hname : IsName name)
    (hattributes : ∀ a ∈ attributes, IsAttribute a)
    (hinner : ReadsAs inner nodes) (hfront : .scalar '<' ∉ front) (htail : .scalar '<' ∉ tail) :
    ReadsAs (front ++ startTag gap name attributes ++ inner ++ tail ++ endTag name)
      (Node.ofText front ++ [.element name attributes (nodes ++ Node.ofText tail)]) := by
  intro enclosing content
  have hopening := (leads_text hfront []).append
    (@leads_startTag enclosing content _ _ hgap hname _ hattributes front)
  have hnodes := hinner (⟨⟨name, attributes⟩, content ++ Node.ofText front⟩ :: enclosing) []
  have hclosing := @leads_endTag enclosing nodes _ hname attributes
    (content ++ Node.ofText front) tail
  have hall := (hopening.append (hnodes.append (leads_text htail []))).append hclosing
  simpa using hall

/-- Markup that reads as nodes is well formed and consists of them. -/
theorem ReadsAs.read? {t : Text} {nodes : List Node} (h : ReadsAs t nodes) :
    read? t = some nodes := by
  have hall : t.foldlM Position.step? ⟨[], [], .text []⟩ = some ⟨[], nodes, .text []⟩ := h [] []
  simp [Markup.read?, hall, Position.finish?, Node.ofText]

/-- An end tag may close no element but the innermost. -/
example : read? (lit "<a><b></a></b>") = none := rfl

/-- Every element has to be closed. -/
example : read? (lit "<a>b") = none := rfl

end Markup

end Formwright
