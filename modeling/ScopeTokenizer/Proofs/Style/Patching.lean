import ScopeTokenizer.Proofs.Style.Packing
import ScopeTokenizer.Proofs.Theme.Specificity

/-!
# Inherited metadata

A scope sets some fields of the metadata of its text, and leaves the others as they are around it.
What it sets is a patch. A patch over another one is a patch again, so that a chain of scopes sets
at once what its scopes set one after the other.
-/

namespace ScopeTokenizer

namespace Style

/-! ## Patches -/

/-- What is set for the fields of a word. A field that is unset is not changed. -/
structure Patch where
  /-- Unset, if zero. -/
  language : UInt8 := 0
  /-- Unset, if `other`. -/
  kind : TokenKind := .other
  font : Option Font := none
  /-- Unset, if zero. -/
  foreground : UInt32 := 0
  /-- Unset, if zero. -/
  background : UInt32 := 0
  deriving DecidableEq, Repr

namespace Patch

/-- The number that is set for a color. -/
def number (patch : Patch) : Ground → UInt32
  | .foreground => patch.foreground
  | .background => patch.background

/-- A patch on top of another one. -/
def atop (upper lower : Patch) : Patch where
  language := if upper.language = 0 then lower.language else upper.language
  kind := if upper.kind = .other then lower.kind else upper.kind
  font := upper.font.or lower.font
  foreground := if upper.foreground = 0 then lower.foreground else upper.foreground
  background := if upper.background = 0 then lower.background else upper.background

/-- A chain of patches as one, the last one on top. -/
def merge (chain : List Patch) : Patch := chain.foldl (fun lower upper => upper.atop lower) {}

theorem number_atop (upper lower : Patch) (ground : Ground) : (upper.atop lower).number ground =
    if upper.number ground = 0 then lower.number ground else upper.number ground := by
  cases ground <;> rfl

@[simp] theorem atop_unset (patch : Patch) : patch.atop {} = patch := by
  simp only [atop, Option.or_none]
  grind [Patch]

@[simp] theorem unset_atop (patch : Patch) : atop {} patch = patch := by
  simp [atop]

theorem atop_assoc (upper middle lower : Patch) :
    (upper.atop middle).atop lower = upper.atop (middle.atop lower) := by
  simp only [atop, Option.or_assoc, mk.injEq, true_and]
  grind

@[simp] theorem merge_nil : merge [] = {} := rfl

/-- The first patch of a chain lies below all others. -/
theorem merge_cons (patch : Patch) (chain : List Patch) :
    merge (patch :: chain) = (merge chain).atop patch := by
  have below (lower : Patch) : chain.foldl (fun lower upper => upper.atop lower) lower =
      (merge chain).atop lower := by
    rw [merge]
    induction chain generalizing lower with
    | nil => exact (unset_atop lower).symm
    | cons upper chain ih =>
      rw [List.foldl_cons, List.foldl_cons, ih, ih (atop upper {}), atop_unset, atop_assoc]
  rw [merge, List.foldl_cons, below, atop_unset]

end Patch

namespace Metadata

/-- Replaces the fields that a patch sets. -/
def apply (m : Metadata) (patch : Patch) : Metadata :=
  m.set patch.language patch.kind patch.font patch.foreground patch.background

/-! ## Fields of a packed word -/

section Packed

variable (language : UInt8) (kind : TokenKind) (font : Font) (foreground background : UInt32)

@[simp] theorem language_pack :
    (pack language kind font foreground background).language = language := by
  apply UInt8.eq_of_toBitVec_eq
  ext place below
  simp only [Metadata.language, pack, languageMask, kindMask, fontMask, foregroundMask,
    backgroundMask]
  interval_cases place <;> simp

theorem kind_pack : (pack language kind font foreground background).kind =
    if kind = .embedded then .other else kind := by
  have whole : ((pack language kind font foreground background).word &&& kindMask) >>> 8 =
      kind.bits &&& 7 := by
    apply UInt32.eq_of_toBitVec_eq
    ext place below
    simp only [pack, kindMask, fontMask, foregroundMask, backgroundMask]
    interval_cases place <;> simp
  have room : kind.bits &&& 7 = kind.bits := by
    cases kind <;> rfl
  rw [Metadata.kind, whole, room, TokenKind.ofBits_bits]

@[simp] theorem font_pack : (pack language kind font foreground background).font = font := by
  have whole : ((pack language kind font foreground background).word &&& fontMask) >>> 11 =
      UInt32.ofNat font.bits &&& 7 := by
    apply UInt32.eq_of_toBitVec_eq
    ext place below
    simp only [pack, kindMask, fontMask, foregroundMask, backgroundMask]
    interval_cases place <;> simp
  have room : (UInt32.ofNat font.bits &&& 7).toNat = font.bits := by
    rcases font with ⟨_ | _, _ | _, _ | _⟩ <;> rfl
  rw [Metadata.font, whole, room, Font.ofBits_bits]

end Packed

/-- Words are the same if they are packed from the same language and font, from kinds with the same
bits, and from colors that agree so far as there is room for them. -/
theorem pack_congr {language₁ language₂ : UInt8} {kind₁ kind₂ : TokenKind} {font₁ font₂ : Font}
    {foreground₁ foreground₂ background₁ background₂ : UInt32} (languages : language₁ = language₂)
    (kinds : kind₁.bits = kind₂.bits) (fonts : font₁ = font₂)
    (foregrounds : foreground₁ &&& 511 = foreground₂ &&& 511)
    (backgrounds : background₁ &&& 511 = background₂ &&& 511) :
    pack language₁ kind₁ font₁ foreground₁ background₁ =
      pack language₂ kind₂ font₂ foreground₂ background₂ := by
  have foreground_and (color : UInt32) :
      color <<< 14 &&& foregroundMask = (color &&& 511) <<< 14 &&& foregroundMask := by
    apply UInt32.eq_of_toBitVec_eq
    ext place below
    interval_cases place <;> simp [foregroundMask]
  have background_and (color : UInt32) :
      color <<< 23 &&& backgroundMask = (color &&& 511) <<< 23 &&& backgroundMask := by
    apply UInt32.eq_of_toBitVec_eq
    ext place below
    interval_cases place <;> simp [backgroundMask]
  rw [pack, foreground_and, background_and, languages, kinds, fonts, foregrounds, backgrounds,
    ← foreground_and, ← background_and, pack]

/-! ## Patches of words -/

variable (m : Metadata)

theorem kind_ne_embedded : m.kind ≠ .embedded := by
  unfold kind TokenKind.ofBits
  split <;> exact nofun

theorem language_apply (patch : Patch) : (m.apply patch).language =
    if patch.language = 0 then m.language else patch.language :=
  language_pack ..

theorem kind_apply (patch : Patch) : (m.apply patch).kind =
    if patch.kind = .other then m.kind
    else if patch.kind = .embedded then .other else patch.kind := by
  refine (kind_pack ..).trans ?_
  by_cases unset : patch.kind = .other
  · rw [if_pos unset, if_pos unset, if_neg m.kind_ne_embedded]
  · rw [if_neg unset, if_neg unset]

theorem font_apply (patch : Patch) :
    (m.apply patch).font = patch.font.getD m.font :=
  font_pack ..

theorem number_apply (patch : Patch) (ground : Ground) :
    (m.apply patch).number ground =
      if patch.number ground = 0 then m.number ground else patch.number ground &&& 511 := by
  refine (m.number_set _ _ _ _ _ ground).trans ?_
  cases ground <;> rfl

/-- Patches that are applied one after the other are applied at once. -/
theorem apply_apply (lower upper : Patch) :
    (m.apply lower).apply upper = m.apply (upper.atop lower) := by
  have languages : (if upper.language = 0 then (m.apply lower).language else upper.language) =
      if (upper.atop lower).language = 0 then m.language else (upper.atop lower).language := by
    rw [language_apply, Patch.atop]
    split <;> simp_all
  have kinds : (if upper.kind = .other then (m.apply lower).kind else upper.kind).bits =
      (if (upper.atop lower).kind = .other then m.kind else (upper.atop lower).kind).bits := by
    rw [kind_apply, Patch.atop]
    cases upper.kind <;> cases lower.kind <;> rfl
  have fonts : upper.font.getD (m.apply lower).font = (upper.atop lower).font.getD m.font := by
    rw [font_apply, Patch.atop]
    cases upper.font <;> rfl
  have numbers (ground : Ground) :
      (if upper.number ground = 0 then (m.apply lower).number ground
        else upper.number ground) &&& 511 =
      (if (upper.atop lower).number ground = 0 then m.number ground
        else (upper.atop lower).number ground) &&& 511 := by
    rw [number_apply, Patch.number_atop]
    split
    · split
      · rfl
      · rw [UInt32.and_assoc, UInt32.and_self]
    · rfl
  exact pack_congr languages kinds fonts (numbers .foreground) (numbers .background)

/-- A chain of patches that are applied one after the other. -/
theorem foldl_apply (lower : Patch) (chain : List Patch) :
    chain.foldl apply (m.apply lower) = m.apply ((Patch.merge chain).atop lower) := by
  induction chain generalizing lower with
  | nil => rw [List.foldl_nil, Patch.merge_nil, Patch.unset_atop]
  | cons upper chain ih =>
    rw [List.foldl_cons, apply_apply, ih, Patch.merge_cons, Patch.atop_assoc]

end Metadata

/-! ## Chains of scopes -/

namespace ScopeStyle

/-- What a scope sets inside others: its own language and kind, and what the rule sets that
applies. -/
def patch (style : ScopeStyle) (outer : Option ScopePath) : Patch :=
  match style.applied? outer with
  | some rule =>
    { language := style.language
      kind := style.kind
      font := rule.look.font
      foreground := .ofNat rule.look.foreground
      background := .ofNat rule.look.background }
  | none => { language := style.language, kind := style.kind }

theorem mergeInto_eq_apply (style : ScopeStyle) (m : Metadata) (outer : Option ScopePath) :
    style.mergeInto m outer = m.apply (style.patch outer) := by
  rw [mergeInto_eq, patch]
  cases style.applied? outer <;> rfl

end ScopeStyle

end Style

namespace ScopePath

open Style

/-- What each scope of a chain sets inside the ones before it. -/
def patches (styler : Styler) (path : ScopePath) : List String → List Patch
  | [] => []
  | scope :: scopes =>
    (styler.styleOf scope).patch (some path) ::
      patches styler (path.enter styler scope) scopes

/-- A chain of scopes has the metadata that its patches lead to one after the other. -/
theorem metadata_enterEach (styler : Styler) (path : ScopePath) (scopes : List String) :
    (path.enterEach styler scopes).metadata =
      (path.patches styler scopes).foldl Metadata.apply path.metadata := by
  induction scopes generalizing path with
  | nil => rfl
  | cons scope scopes ih =>
    have first : (path.enter styler scope).metadata =
        path.metadata.apply ((styler.styleOf scope).patch (some path)) :=
      (styler.styleOf scope).mergeInto_eq_apply path.metadata (some path)
    rw [patches, List.foldl_cons, ← first, ← ih]
    rfl

/-- The patches of one scope at least, and of those inside it, are one. -/
theorem metadata_enterEach_cons (styler : Styler) (path : ScopePath) (scope : String)
    (scopes : List String) :
    (path.enterEach styler (scope :: scopes)).metadata =
      path.metadata.apply (.merge (path.patches styler (scope :: scopes))) := by
  rw [metadata_enterEach, patches, List.foldl_cons, Metadata.foldl_apply,
    Patch.merge_cons]

/-- Text outside of any scope is patched like text in scopes. -/
theorem metadata_enterEach_rootPath (styler : Styler) (root : String) (scopes : List String) :
    ((styler.rootPath root).enterEach styler scopes).metadata =
      Metadata.unset.apply (.merge (styler.defaultStyle.patch none ::
        (styler.styleOf root).patch none ::
        (styler.rootPath root).patches styler scopes)) := by
  have first : (styler.rootPath root).metadata =
      (Metadata.unset.apply (styler.defaultStyle.patch none)).apply
        ((styler.styleOf root).patch none) := by
    rw [Styler.rootPath, metadata, ScopeStyle.mergeInto_eq_apply,
      ScopeStyle.mergeInto_eq_apply]
  rw [metadata_enterEach, first, Metadata.apply_apply, Metadata.foldl_apply,
    Patch.merge_cons, Patch.merge_cons, Patch.atop_assoc]

end ScopePath

namespace Style.Metadata

/-- Setting the fields of a word merges a patch into it. Each field of the result is what the patch
sets, and what it was where nothing is set; a kind of `embedded` gives `other`. Setting nothing
leaves a word as it is that comes from a patch. Patches that are applied one after the other are
applied at once, the later ones on top. So a chain of scopes, from any scopes or from the outside
on, has the metadata that the patches of all of them, merged into one, lead to. -/
theorem patches_merge (m : Metadata) (patch : Patch) :
    (patch.foreground < 512 → patch.background < 512 →
      (m.apply patch).language =
        (if patch.language = 0 then m.language else patch.language) ∧
      (m.apply patch).kind =
        (if patch.kind = .other then m.kind
          else if patch.kind = .embedded then .other else patch.kind) ∧
      (m.apply patch).font = patch.font.getD m.font ∧
      (m.apply patch).foreground =
        (if patch.foreground = 0 then m.foreground else patch.foreground) ∧
      (m.apply patch).background =
        (if patch.background = 0 then m.background else patch.background)) ∧
    (m.apply patch).set 0 .other none 0 0 = m.apply patch ∧
    (∀ upper, (m.apply patch).apply upper = m.apply (upper.atop patch)) ∧
    (∀ chain, (patch :: chain).foldl apply m = m.apply (.merge (patch :: chain)) ∧
      chain.foldl apply (m.apply patch) = (m.apply patch).apply (.merge chain)) ∧
    ∀ (styler : Styler) (scopes : List String),
      (∀ (path : ScopePath) (scope : String),
        (path.enterEach styler (scope :: scopes)).metadata =
          path.metadata.apply (.merge (path.patches styler (scope :: scopes)))) ∧
      ∀ root, ((styler.rootPath root).enterEach styler scopes).metadata =
        unset.apply (.merge (styler.defaultStyle.patch none ::
          (styler.styleOf root).patch none ::
          (styler.rootPath root).patches styler scopes)) := by
  have kept (color : UInt32) (small : color < 512) : color &&& 511 = color := by
    apply UInt32.toNat_inj.mp
    rw [toNat_and]
    exact Nat.mod_eq_of_lt (UInt32.lt_iff_toNat_lt.mp small)
  refine ⟨fun foreground background => ⟨m.language_apply patch, m.kind_apply patch,
    m.font_apply patch, ?_, ?_⟩, ?_, m.apply_apply patch, fun chain => ⟨?_, ?_⟩,
    fun styler scopes => ⟨fun path scope => path.metadata_enterEach_cons styler scope scopes,
      fun root => ScopePath.metadata_enterEach_rootPath styler root scopes⟩⟩
  · refine (m.number_apply patch .foreground).trans ?_
    rw [Patch.number, kept _ foreground, number]
  · refine (m.number_apply patch .background).trans ?_
    rw [Patch.number, kept _ background, number]
  · calc (m.apply patch).set 0 .other none 0 0
      _ = (m.apply patch).apply {} := rfl
      _ = m.apply patch := by rw [apply_apply, Patch.unset_atop]
  · rw [List.foldl_cons, foldl_apply, Patch.merge_cons]
  · rw [foldl_apply, apply_apply]

/-- Embedded text on another background, inside an italic comment. -/
theorem patches_merge_embedded :
    let comment := unset.apply ⟨2, .comment, some { italic := true }, 5, 6⟩
    let embedded := comment.apply ⟨0, .embedded, none, 0, 511⟩
    embedded.language = 2 ∧ embedded.kind = .other ∧ embedded.font = { italic := true } ∧
      embedded.foreground = 5 ∧ embedded.background = 511 := by
  intro comment embedded
  have outer := (patches_merge unset ⟨2, .comment, some { italic := true }, 5, 6⟩).1
    (by decide) (by decide)
  have inner := (patches_merge comment ⟨0, .embedded, none, 0, 511⟩).1 (by decide) (by decide)
  obtain ⟨language, -, font, foreground, -⟩ := outer
  obtain ⟨language', kind', font', foreground', background'⟩ := inner
  exact ⟨language'.trans language, kind', font'.trans font, foreground'.trans foreground,
    background'⟩

end Style.Metadata

end ScopeTokenizer
