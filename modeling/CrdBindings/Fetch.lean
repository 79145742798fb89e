import CrdBindings.Keyed

/-!
Fetching documents. An origin tells what comes back from each address; a cache keeps the documents
that came back, by exact address, and answers for them from then on.
-/

namespace CrdBindings
set_option autoImplicit false

/-- What comes back when a document is asked for. -/
inductive Reply where
  | document (text : String)
  | refused (reason : String)
  /-- Nothing ever comes back. -/
  | stalled
deriving DecidableEq, Repr

/-- What comes back from each address. -/
abbrev Origin := String → Reply

/-- The documents that are kept, each under its address. -/
structure Cache where
  entries : List (String × String)
deriving DecidableEq, Repr

namespace Cache

def empty : Cache := ⟨[]⟩

def find? (c : Cache) (url : String) : Option String := Keyed.find? url c.entries

def keep (c : Cache) (url text : String) : Cache := ⟨Keyed.put url text c.entries⟩

def size (c : Cache) : Nat := c.entries.length

end Cache

/-- A result that took fetches: the addresses that were asked, in order, and the cache behind them. -/
structure Retrieval (α : Type) where
  result : α
  asked : List String
  cache : Option Cache
deriving Repr

namespace Retrieval

def map {α β : Type} (f : α → β) (r : Retrieval α) : Retrieval β := ⟨f r.result, r.asked, r.cache⟩

end Retrieval

/-- Fetches a document: from the cache, if there is one and it has the document, and else from the
origin. Only a document that came back is kept. -/
def fetch (origin : Origin) (cache : Option Cache) (url : String) : Retrieval Reply :=
  match cache with
  | none => ⟨origin url, [url], none⟩
  | some c =>
    match c.find? url with
    | some text => ⟨.document text, [], some c⟩
    | none =>
      match origin url with
      | .document text => ⟨.document text, [url], some (c.keep url text)⟩
      | reply => ⟨reply, [url], some c⟩

end CrdBindings
