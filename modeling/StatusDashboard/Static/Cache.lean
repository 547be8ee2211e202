import StatusDashboard.Storage.Model
import StatusDashboard.Tables.Recency

namespace StatusDashboard.Static

open Storage Tables

/-!
# The response cache of the static proxy

The cache keeps origin responses in three structures at once: a linked list of
elements in order of use, a map from keys to elements, and a count of the bytes
held.  An element is a pointer, so it is modelled with an identity of its own
next to the item it points to, which is never changed after it was built.  The
budget is a natural number, as the configuration accepts positive ones only.
-/

/-- Strings of the language are byte strings. -/
abbrev Text := List UInt8

/-- The bytes of a literal. -/
def text (literal : String) : Text := literal.toUTF8.toList

abbrev Header := List (Text × List Text)

/-- One origin response. -/
structure Entry where
  status : Nat
  header : Header
  body : List UInt8
  expires : Time
  storable : Bool
deriving DecidableEq, Repr

/-- The bytes an entry occupies: its body, and a name for each header value. -/
def Entry.size (entry : Entry) : Nat :=
  entry.header.foldl
    (fun size field =>
      field.2.foldl (fun size value => size + (field.1.length + value.length)) size)
    entry.body.length

structure Element where
  pointer : Nat
  key : Text
  entry : Entry
deriving DecidableEq, Repr

structure Cache where
  maxBytes : Nat
  bytes : Int
  order : List Element
  items : Text → Option Element
  /-- The next pointer the allocator hands out. -/
  allocated : Nat

def newCache (maxBytes : Nat) : Cache :=
  ⟨maxBytes, 0, [], fun _ => none, 0⟩

/-- Unlink an element, wherever it stands. -/
def remove (element : Element) (order : List Element) : List Element :=
  order.filter (fun other => decide (other.pointer ≠ element.pointer))

/-- Relink an element of the list in front; a foreign element is left alone. -/
def moveToFront (element : Element) (order : List Element) : List Element :=
  if order.any (fun other => other.pointer = element.pointer) then
    element :: remove element order
  else order

namespace Cache

def touch (cache : Cache) (key : Text) : Cache × Option Element :=
  match cache.items key with
  | none => (cache, none)
  | some element =>
    ({ cache with order := moveToFront element cache.order }, some element)

def get (cache : Cache) (key : Text) (now : Time) : Cache × Option Entry :=
  match cache.touch key with
  | (touched, none) => (touched, none)
  | (touched, some element) =>
    (touched, if now < element.entry.expires then some element.entry else none)

def getStale (cache : Cache) (key : Text) : Cache × Option Entry :=
  match cache.touch key with
  | (touched, none) => (touched, none)
  | (touched, some element) => (touched, some element.entry)

def drop (cache : Cache) (element : Element) : Cache :=
  { cache with
    bytes := cache.bytes - element.entry.size
    items := Function.update cache.items element.key none
    order := remove element cache.order }

/-- The eviction loop.  Each turn unlinks one element, so the length of the list is enough fuel. -/
def evict : Nat → Cache → Cache
  | 0, cache => cache
  | turns + 1, cache =>
    if (cache.maxBytes : Int) < cache.bytes then
      match cache.order.getLast? with
      | none => cache
      | some element => evict turns (cache.drop element)
    else cache

/-- Link a new element in front and count it. -/
def pushFront (cache : Cache) (key : Text) (entry : Entry) : Cache :=
  let element := ⟨cache.allocated, key, entry⟩
  { cache with
    bytes := cache.bytes + entry.size
    items := Function.update cache.items key (some element)
    order := element :: cache.order
    allocated := cache.allocated + 1 }

/-- Drop what a key holds. -/
def clear (cache : Cache) (key : Text) : Cache :=
  match cache.items key with
  | some element => cache.drop element
  | none => cache

def put (cache : Cache) (key : Text) (entry : Entry) : Cache :=
  if cache.maxBytes < entry.size then cache
  else
    let pushed := (cache.clear key).pushFront key entry
    evict (pushed.order.length + 1) pushed

end Cache

/-- The calls the proxy makes, with the clock where one is read. -/
inductive Call where
  | put (key : Text) (entry : Entry)
  | get (key : Text) (now : Time)
  | getStale (key : Text)
deriving DecidableEq, Repr

def Cache.call (cache : Cache) : Call → Cache × Option Entry
  | .put key entry => (cache.put key entry, none)
  | .get key now => cache.get key now
  | .getStale key => cache.getStale key

/-- The cache after a sequence of calls. -/
def Cache.after (cache : Cache) (calls : List Call) : Cache :=
  calls.foldl (fun cache call => (cache.call call).1) cache

end StatusDashboard.Static
