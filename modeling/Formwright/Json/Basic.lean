import Formwright.Number.Double
import Formwright.Text.Basic

/-!
JSON documents. Object members keep their order, integers any size, and texts
may hold halves of surrogate pairs.
-/

namespace Formwright

inductive Json where
  | null
  | bool (b : Bool)
  | int (n : Int)
  | float (x : Double)
  | text (t : Text)
  | array (items : List Json)
  | object (members : List (Text × Json))
  deriving Inhabited

/-- Members in order, later ones replacing earlier ones of the same name in place. -/
def putMember {α : Type} (name : Text) (value : α) : List (Text × α) → List (Text × α)
  | [] => [(name, value)]
  | (n, v) :: rest => if n = name then (name, value) :: rest else (n, v) :: putMember name value rest

/-- The value of the member of that name. -/
def member? {α : Type} (name : Text) : List (Text × α) → Option α
  | [] => none
  | (n, v) :: rest => if n = name then some v else member? name rest

namespace Json

/-- An object from literal names. -/
def ofMembers (members : List (String × Json)) : Json :=
  object (members.map fun (name, value) => (lit name, value))

def ofString (s : String) : Json :=
  text (lit s)

/-- The member of an object. -/
def get? (name : String) : Json → Option Json
  | object members => member? (lit name) members
  | _ => none

mutual

/-- Whether no text in a document, names included, holds half of a surrogate pair. -/
def isScalar : Json → Bool
  | text t => t.all CodePoint.isScalar
  | array items => areScalar items
  | object members => membersAreScalar members
  | _ => true

def areScalar : List Json → Bool
  | [] => true
  | item :: items => isScalar item && areScalar items

def membersAreScalar : List (Text × Json) → Bool
  | [] => true
  | (name, value) :: members =>
    name.all CodePoint.isScalar && isScalar value && membersAreScalar members

end

mutual

/-- How many arrays and objects are open at once at the deepest place. -/
def depth : Json → Nat
  | array items => itemsDepth items + 1
  | object members => membersDepth members + 1
  | _ => 0

def itemsDepth : List Json → Nat
  | [] => 0
  | item :: items => max (depth item) (itemsDepth items)

def membersDepth : List (Text × Json) → Nat
  | [] => 0
  | (_, value) :: members => max (depth value) (membersDepth members)

end

mutual

/-- A document with null in place of every number that is not finite. -/
def finite : Json → Json
  | float .nan => null
  | float (.infinite _) => null
  | array items => array (finiteItems items)
  | object members => object (finiteMembers members)
  | j => j

def finiteItems : List Json → List Json
  | [] => []
  | item :: items => finite item :: finiteItems items

def finiteMembers : List (Text × Json) → List (Text × Json)
  | [] => []
  | (name, value) :: members => (name, finite value) :: finiteMembers members

end

end Json

end Formwright
