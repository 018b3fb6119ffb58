import ConstrainedDecoding.Decoding.Processor
import ConstrainedDecoding.Generation.Backend
import ConstrainedDecoding.Guide.Cache

/-! Generators whose output matches a pattern. -/

namespace ConstrainedDecoding

/-- What a generator feeds to its model. -/
inductive Adapter
  | text
  | vision
deriving DecidableEq

structure Generator where
  backend : Backend
  adapter : Adapter
  guide : BuiltGuide
  processor : Processor

namespace Generator

def isMultimodal (g : Generator) : Bool := g.adapter = .vision

def adapterOf (b : Backend) : Adapter := if b.isMultimodal then .vision else .text

/-- The generator of a pattern. Its guide is taken from the cache, and a backend without logits is
refused before that. -/
def ofPattern (cache : GuideCache) (settings : Settings) (backend : Backend) (pattern : String)
    (v : VocabularyIndex) : Except Error Generator × GuideCache :=
  if backend.hasLogits then
    match cache.getOrBuild settings pattern v with
    | (.error e, cache) => (.error e, cache)
    | (.ok g, cache) =>
      (.ok {
        backend, adapter := adapterOf backend, guide := g
        processor := .ofGuide g.guide }, cache)
  else (.error .noLogits, cache)

end Generator

end ConstrainedDecoding
