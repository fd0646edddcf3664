import Formwright.Value.Basic

/-!
When two values are the same. Numbers are compared by what they stand for, flags
being 0 and 1; the order of members does not matter; a list and a tuple differ.
What is no number differs from everything, from itself too unless `nanAgrees`
holds: then both values are known to be one.
-/

namespace Formwright

namespace Number

def sameAs (nanAgrees : Bool) : Number → Number → Bool
  | whole m, whole n => m == n
  | real x, real y => x.sameNumber nanAgrees y
  | whole n, real x => x.toInt? == some n
  | real x, whole n => x.toInt? == some n

end Number

def sameOptional {α : Type} (same : α → α → Bool) : Option α → Option α → Bool
  | none, none => true
  | some x, some y => same x y
  | _, _ => false

def sameLists {α : Type} (same : α → α → Bool) : List α → List α → Bool
  | [], [] => true
  | x :: xs, y :: ys => same x y && sameLists same xs ys
  | _, _ => false

def Scalar.sameAs (nanAgrees : Bool) : Scalar → Scalar → Bool
  | text s, text t => s == t
  | number m, number n => m.sameAs nanAgrees n
  | _, _ => false

def Choice.sameAs (nanAgrees : Bool) (c d : Choice) : Bool :=
  c.caption == d.caption && c.value.sameAs nanAgrees d.value

def sameOptions (nanAgrees : Bool) : List Choice → List Choice → Bool :=
  sameLists (Choice.sameAs nanAgrees)

def Control.sameAs (nanAgrees : Bool) : Control → Control → Bool
  | number a b, number c d =>
    sameOptional (Number.sameAs nanAgrees) a c && sameOptional (Number.sameAs nanAgrees) b d
  | select xs, select ys | radio xs, radio ys | checkbox xs, checkbox ys =>
    sameOptions nanAgrees xs ys
  | c, d => c == d

def Model.sameAs (nanAgrees : Bool) : Model → Model → Bool
  | choice c, choice d => c.sameAs nanAgrees d
  | base s a, base t b => s == t && a == b
  | optioned s a xs, optioned t b ys => s == t && a == b && sameOptions nanAgrees xs ys
  | item i, item j => i.toAttributes == j.toAttributes && i.control.sameAs nanAgrees j.control
  | component c, component d => c == d
  | derived s m, derived t n => s == t && m.sameAs nanAgrees n
  | _, _ => false

namespace Value

/-- The number that a value stands for, if it is one. -/
def number? : Value → Option Number
  | bool b => some (.whole (if b then 1 else 0))
  | int n => some (.whole n)
  | float x => some (.real x)
  | _ => none

mutual

def sameAs (nanAgrees : Bool) : Value → Value → Bool
  | null, null => true
  | text s, text t => s == t
  | bytes a, bytes b => a == b
  | list xs, list ys => sameItems nanAgrees xs ys
  | tuple xs, tuple ys => sameItems nanAgrees xs ys
  | object xs, object ys => xs.length == ys.length && sameMembers nanAgrees xs ys
  | bag xs, bag ys => xs.length == ys.length && sameMembers nanAgrees xs ys
  | model m, model n => m.sameAs nanAgrees n
  | v, w =>
    match v.number?, w.number? with
    | some m, some n => m.sameAs nanAgrees n
    | _, _ => false

def sameItems (nanAgrees : Bool) : List Value → List Value → Bool
  | [], [] => true
  | x :: xs, y :: ys => sameAs nanAgrees x y && sameItems nanAgrees xs ys
  | _, _ => false

/-- Whether every member has the same value in the second list. -/
def sameMembers (nanAgrees : Bool) : List (Text × Value) → List (Text × Value) → Bool
  | [], _ => true
  | (name, value) :: members, others =>
    (match member? name others with
      | some other => sameAs nanAgrees value other
      | none => false) && sameMembers nanAgrees members others

end

end Value

end Formwright
