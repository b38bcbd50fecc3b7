/-!
# JSON documents

A document is a finite tree. An object keeps its members in the order in which
they are written, repeated keys included; looking a key up finds its last
member, and the canonical form keeps only that one, with the keys in order.
-/

namespace LoginGate.Json

/-- A number. Whole numbers that fit a word of 64 bits are kept exactly. -/
inductive Number where
  /-- A whole number that is not negative. -/
  | natural (n : Nat)
  /-- The negative of a whole number that is not zero. -/
  | negative (n : Nat)
  /-- Any other number, as the nearest number of 64 bits. -/
  | real (x : Float)

/-- A document. -/
inductive Value where
  | null
  | bool (b : Bool)
  | number (n : Number)
  | string (s : String)
  | array (items : List Value)
  /-- The members, in the order in which they are written. -/
  | object (members : List (String × Value))
deriving Inhabited

namespace Value

/-- The member of an object with the given key, the last one if it is repeated. -/
def get? (key : String) : Value → Option Value
  | .object members => members.reverse.lookup key
  | _ => none

/-- Puts a member into members that are in order of their keys, in place of
    the one with the same key. -/
def putMember (key : String) (value : Value) : List (String × Value) → List (String × Value)
  | [] => [(key, value)]
  | m :: rest =>
    if key = m.1 then (key, value) :: rest
    else if key < m.1 then (key, value) :: m :: rest
    else m :: putMember key value rest

mutual
/-- The same document with the members of every object in order of their keys
    and only the last of those with the same key. -/
def canonical : Value → Value
  | .array items => .array (canonicalItems items)
  | .object members => .object (canonicalMembers members [])
  | v => v

/-- Canonical forms of the items of an array. -/
def canonicalItems : List Value → List Value
  | [] => []
  | v :: rest => v.canonical :: canonicalItems rest

/-- The canonical members after those already put in order. -/
def canonicalMembers : List (String × Value) → List (String × Value) → List (String × Value)
  | [], sorted => sorted
  | (k, v) :: rest, sorted => canonicalMembers rest (putMember k v.canonical sorted)
end

end Value

end LoginGate.Json
