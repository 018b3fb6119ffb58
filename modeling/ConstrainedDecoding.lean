import ConstrainedDecoding.Automaton.Compile
import ConstrainedDecoding.Decoding.Processor
import ConstrainedDecoding.Generation.Generator
import ConstrainedDecoding.Generation.Walk
import ConstrainedDecoding.Guide.Cache
import ConstrainedDecoding.Main
import ConstrainedDecoding.Settings.Json
import ConstrainedDecoding.Tokenizer.Vocabulary
import ConstrainedDecoding.Proofs.Automaton.ByteClasses
import ConstrainedDecoding.Proofs.Automaton.Search
import ConstrainedDecoding.Proofs.Automaton.BreadthFirst
import ConstrainedDecoding.Proofs.Pattern.Matching
import ConstrainedDecoding.Proofs.Pattern.Utf8
import ConstrainedDecoding.Proofs.Pattern.Elaborate
import ConstrainedDecoding.Proofs.Automaton.Run
import ConstrainedDecoding.Proofs.Automaton.Thompson
import ConstrainedDecoding.Proofs.Automaton.Plan
import ConstrainedDecoding.Proofs.Automaton.Closure
import ConstrainedDecoding.Proofs.Automaton.Subset
import ConstrainedDecoding.Proofs.Automaton.Canonical
import ConstrainedDecoding.Proofs.Automaton.Compile
import ConstrainedDecoding.Proofs.Automaton.Numbering
import ConstrainedDecoding.Proofs.Automaton.Determinize
import ConstrainedDecoding.Proofs.Automaton.ByteSteps
import ConstrainedDecoding.Proofs.Automaton.Limits
import ConstrainedDecoding.Proofs.Automaton.Relocation
import ConstrainedDecoding.Proofs.Automaton.OuterAnchors
import ConstrainedDecoding.Proofs.Vocabulary.Trie
import ConstrainedDecoding.Proofs.Vocabulary.Index
import ConstrainedDecoding.Proofs.Vocabulary.Constructors
import ConstrainedDecoding.Proofs.Guide.Edges
import ConstrainedDecoding.Proofs.Guide.Live
import ConstrainedDecoding.Proofs.Guide.Rows
import ConstrainedDecoding.Proofs.Guide.Advance
import ConstrainedDecoding.Proofs.Guide.Language
import ConstrainedDecoding.Proofs.Guide.Completion
import ConstrainedDecoding.Proofs.Guide.Mask
import ConstrainedDecoding.Proofs.Guide.Recency
import ConstrainedDecoding.Proofs.Decoding.Processor
import ConstrainedDecoding.Proofs.Decoding.Batch
import ConstrainedDecoding.Proofs.Decoding.Projection
import ConstrainedDecoding.Proofs.Generation.ClosedLoop
import ConstrainedDecoding.Guide.SharedCache
import ConstrainedDecoding.Proofs.SharedCache.Cells
import ConstrainedDecoding.Proofs.SharedCache.Run
import ConstrainedDecoding.Proofs.SharedCache.Tidy
import ConstrainedDecoding.Proofs.SharedCache.SingleBuild
import ConstrainedDecoding.Proofs.SharedCache.Alone
import ConstrainedDecoding.Proofs.SharedCache.Kept
import ConstrainedDecoding.Proofs.Guide.Transparency
import ConstrainedDecoding.Proofs.Guide.Naive
import ConstrainedDecoding.Proofs.Guide.Consistency
import ConstrainedDecoding.Proofs.Guide.Utf8
import ConstrainedDecoding.Proofs.Guide.Skipping
import ConstrainedDecoding.Proofs.Decoding.SingleRow
import ConstrainedDecoding.Proofs.Decoding.Cursor
import ConstrainedDecoding.Proofs.Guide.Decode
import ConstrainedDecoding.Proofs.Vocabulary.Prefixes
import ConstrainedDecoding.Proofs.Vocabulary.Pairs
import ConstrainedDecoding.Proofs.Tokenizer.ByteWords
import ConstrainedDecoding.Proofs.Tokenizer.DeclaredEos
import ConstrainedDecoding.Proofs.Tokenizer.ByteLevel
import ConstrainedDecoding.Proofs.Tokenizer.Pipeline
import ConstrainedDecoding.Proofs.Automaton.SilentPaths
import ConstrainedDecoding.Automaton.Builder
import ConstrainedDecoding.Proofs.Automaton.Layout
import ConstrainedDecoding.Proofs.Automaton.OpenEnds
import ConstrainedDecoding.Proofs.Automaton.Builder
import ConstrainedDecoding.Proofs.Automaton.Exits
import ConstrainedDecoding.Proofs.Automaton.NothingDangles
