import FieldQuery.Expression
import FieldQuery.Main
import FieldQuery.Proofs.Calendar.Canonical
import FieldQuery.Proofs.Calendar.LeapSeconds
import FieldQuery.Proofs.Calendar.RoundTrip
import FieldQuery.Proofs.Calendar.Writable
import FieldQuery.Proofs.Expression.Agreement
import FieldQuery.Proofs.Expression.Forest
import FieldQuery.Proofs.Expression.Simulation
import FieldQuery.Proofs.Level
import FieldQuery.Proofs.Pass.Choices
import FieldQuery.Proofs.Pass.CompiledTrees
import FieldQuery.Proofs.Pass.OpenGroups
import FieldQuery.Proofs.Pass.Pruning
import FieldQuery.Proofs.Pass.Reached
import FieldQuery.Proofs.Pass.Refusals
import FieldQuery.Proofs.Pass.RelationalTwins
import FieldQuery.Proofs.Pass.UnwritableDate
import FieldQuery.Proofs.Relational.Decoding
import FieldQuery.Proofs.Relational.Meaning
import FieldQuery.Proofs.Relational.Reading
import FieldQuery.Proofs.Relational.Spelling
import FieldQuery.Proofs.Search.Analysis
import FieldQuery.Proofs.Search.Decoding
import FieldQuery.Proofs.Search.Meaning
import FieldQuery.Proofs.Search.Separators
import FieldQuery.Proofs.Search.SettledClauses
import FieldQuery.Proofs.Search.SoundTrees
import FieldQuery.Proofs.Sort
import FieldQuery.Proofs.Term.Matches
import FieldQuery.Proofs.Term.Ranges
import FieldQuery.Proofs.Term.SameValues
import FieldQuery.Proofs.Term.Tokens
import FieldQuery.Proofs.Text.Lowercase
import FieldQuery.Proofs.Text.Numerals
import FieldQuery.Proofs.Text.Readers
import FieldQuery.Proofs.Value.Midnight
import FieldQuery.Proofs.Value.Numbers
import FieldQuery.Proofs.Value.Settled
import FieldQuery.Proofs.Value.WrittenMoments
