import Deckwright.Card.Query
import Deckwright.Pattern.TextPattern
import Std.Data.HashMap

/-!
# Card pools

A pool holds cards in the order in which their names were first added, and each name, in normal
form, once: a card of a name that is there takes the place of the card before it. A search goes
through the pool in this order.
-/

namespace Deckwright

/-- Where cards come from. A source may fail, which `m` accounts for. -/
structure CardSource (m : Type → Type) where
  /-- The card of a name, if there is one. -/
  resolve : String → m (Option Card)
  /-- The cards that answer a query, in the order of the source. -/
  search : CardQuery → m (List Card)

/-- A pool of cards. -/
structure CardPool where
  /-- The cards in order. -/
  cards : Array Card
  /-- Positions of the cards by their normalized names. -/
  positions : Std.HashMap String Nat
  deriving Inhabited

namespace CardPool

/-- The pool with no cards. -/
def empty : CardPool := ⟨#[], ∅⟩

/-- Add a card, in place of the one with its name. -/
def insert (pool : CardPool) (card : Card) : CardPool :=
  match pool.positions[card.normalizedName]? with
  | some i => { pool with cards := pool.cards.setIfInBounds i card }
  | none => ⟨pool.cards.push card, pool.positions.insert card.normalizedName pool.cards.size⟩

/-- The pool of the cards in a list, added one after the other. -/
def ofList (cards : List Card) : CardPool := cards.foldl insert empty

/-- Number of cards. -/
def size (pool : CardPool) : Nat := pool.cards.size

/-- The card of a name. -/
def get? (pool : CardPool) (name : String) : Option Card :=
  pool.positions[normalizeName name]?.bind fun i => pool.cards[i]?

end CardPool

namespace CardQuery

/-- The card satisfies a query whose pattern is compiled. -/
def accepts (q : CardQuery) (pattern : TextPattern) (card : Card) : Bool :=
  q.colorIdentity.all (fun identity => card.colorIdentity.isSubsetOf identity)
    && q.format.all card.isLegalIn && pattern.isMatch (q.field.text card)

end CardQuery

namespace CardPool

/-- The first cards of the pool, up to a page, that satisfy a query. -/
def search (pool : CardPool) (q : CardQuery) : List Card :=
  (pool.cards.toList.filter (q.accepts (.compile q.pattern))).take q.pageSize

/-- The pool as a source of cards, which never fails. -/
def source {m : Type → Type} [Monad m] (pool : CardPool) : CardSource m where
  resolve name := pure (pool.get? name)
  search q := pure (pool.search q)

end CardPool

end Deckwright
