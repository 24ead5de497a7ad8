import AttributeRelease.Proofs.Documents.Filters
import AttributeRelease.Proofs.Documents.Resolvers
import AttributeRelease.Transcoding.Config

/-!
# Configurations read back

The configurations of filters, of resolvers and of transcoding are what their texts are read as
(`configurations_read_back`). Those of filters may hold matchers and requirements of any depth; they
are read as long as their documents are not nested deeper than documents may be.
-/

namespace AttributeRelease

open Json

/-! ## Transcoding -/

namespace Transcoding

/-- A rule for transcoding is read back with all that is configured of it. -/
theorem RuleConfig.isCodec : IsCodec toJson ofJson? where
  hasText config := by simp [toJson, isCodec_string.list.hasText, isCodec_texts.hasText]
  reads config := by
    have encoding : name? .direct ScopeEncoding.names (.string config.scopeEncoding.name) =
        some config.scopeEncoding := by
      cases config.scopeEncoding <;> rfl
    rw [ofJson?, toJson, record?_object (by simp)]
    simp [encoding, isCodec_string.list.reads, isCodec_texts.reads]

/-- A configuration for transcoding is read back rule by rule. -/
theorem TranscodingConfig.isCodec : IsCodec toJson ofJson? where
  hasText config := by simp [toJson, RuleConfig.isCodec.list.map.hasText]
  reads config := by
    rw [ofJson?, toJson, record?_object (by simp)]
    simp [RuleConfig.isCodec.list.map.reads]

end Transcoding

/-! ## All configurations -/

/-- Every configuration of a filter that is not nested deeper than documents may be, and every
configuration of a resolver and of transcoding, is read back from its text as it was. -/
theorem configurations_read_back :
    (∀ config : Filter.FilterConfig,
      Filter.FilterConfig.parse? config.toJson.print =
        if config.toJson.depth ≤ nestingLimit then some config else none) ∧
      (∀ config : Resolver.ResolverConfig,
        Resolver.ResolverConfig.parse? config.toJson.print = some config) ∧
      ∀ config : Transcoding.TranscodingConfig,
        Transcoding.TranscodingConfig.parse? config.toJson.print = some config :=
  ⟨Filter.FilterConfig.parse?_print, Resolver.ResolverConfig.isCodec.parse?_print,
    Transcoding.TranscodingConfig.isCodec.parse?_print⟩

end AttributeRelease
