import Deckwright.Finder
import Deckwright.Proofs.Card.Additions
import Deckwright.Proofs.Card.Color
import Deckwright.Proofs.Card.Legality
import Deckwright.Proofs.Card.TypeLine
import Deckwright.Proofs.Combo.CardCombos
import Deckwright.Proofs.Combo.Completion
import Deckwright.Proofs.Combo.Detection
import Deckwright.Proofs.Combo.LineReading
import Deckwright.Proofs.Combo.Rebuild
import Deckwright.Proofs.Combo.RoundTrip
import Deckwright.Proofs.Combo.SameNames
import Deckwright.Proofs.Json.Readers
import Deckwright.Proofs.Pattern.Escape
import Deckwright.Proofs.Pattern.ExactWord
import Deckwright.Proofs.Pattern.Footprint
import Deckwright.Proofs.Pattern.LiteralSearch
import Deckwright.Proofs.Pattern.Seams
import Deckwright.Proofs.Pattern.Spans
import Deckwright.Proofs.Pattern.Subtype
import Deckwright.Proofs.RoundTrip
import Deckwright.Proofs.Synergy.Eligibility
import Deckwright.Proofs.Synergy.Explanation
import Deckwright.Proofs.Synergy.Repetition
import Deckwright.Proofs.Synergy.Restriction
import Deckwright.Proofs.Synergy.Rules
import Deckwright.Proofs.Synergy.Themes
import Deckwright.Proofs.Unicode.CaseForms
