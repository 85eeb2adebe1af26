import Mathlib.Logic.Function.Basic
import SigningPreview.Kind

/-! # Tags keep their texts

Reading a tag looks its text up in a table, and writing a known one looks it up in another. The two
tables are inverse to each other (`PayloadKind.ofLiteral?_eq_some_iff`) and a text in neither is
handed through, so no text is lost on the way in and out (`Tag.written_ofText`). On the way out and
in again only a tag that hides the literal of a kind changes, since reading takes it for that kind
(`Tag.ofText_written_iff`). -/
namespace SigningPreview

namespace PayloadKind

theorem ofLiteral?_literal (k : PayloadKind) : ofLiteral? k.literal = some k := by
  cases k <;> decide

theorem ofLiteral?_eq_some_iff {s : String} {k : PayloadKind} :
    ofLiteral? s = some k ↔ k.literal = s := by
  constructor
  · intro h
    unfold ofLiteral? at h
    split at h <;> cases h <;> rfl
  · rintro rfl
    exact ofLiteral?_literal k

theorem ofLiteral?_eq_none_iff {s : String} :
    ofLiteral? s = none ↔ ∀ k : PayloadKind, k.literal ≠ s := by
  simp only [Option.eq_none_iff_forall_ne_some, ne_eq, ofLiteral?_eq_some_iff]

end PayloadKind

namespace Tag

/-- The texts that name a kind. -/
def literals : List String :=
  ["ERC20_TRANSFER", "ERC721_TRANSFER", "ERC1155_TRANSFER", "NATIVE_ASSET_TRANSFER",
    "ERC20_APPROVAL", "ERC721_APPROVAL", "ERC721_APPROVAL_FOR_ALL", "ERC1155_APPROVAL_FOR_ALL",
    "SOL_TRANSFER", "SPL_TRANSFER", "SPL_APPROVAL", "SOL_STAKE_AUTHORITY_CHANGE"]

theorem mem_literals_iff {s : String} : s ∈ literals ↔ ∃ k : PayloadKind, k.literal = s := by
  constructor
  · intro h
    have named : ∀ t ∈ literals, (PayloadKind.ofLiteral? t).isSome := by decide
    obtain ⟨k, hk⟩ := Option.isSome_iff_exists.1 (named s h)
    exact ⟨k, PayloadKind.ofLiteral?_eq_some_iff.1 hk⟩
  · rintro ⟨k, rfl⟩
    cases k <;> decide

/-! ## Three ways to show a tag -/

theorem written_eq_text (tag : Tag) : tag.written = tag.text := by
  cases tag <;> rfl

theorem toString_eq_text (tag : Tag) : toString tag = tag.text := rfl

/-! ## In and out -/

theorem ofText_of_literal {s : String} {k : PayloadKind} (h : k.literal = s) :
    ofText s = .known k := by
  rw [ofText, PayloadKind.ofLiteral?_eq_some_iff.2 h]

theorem ofText_of_unnamed {s : String} (h : ∀ k : PayloadKind, k.literal ≠ s) :
    ofText s = .other s := by
  rw [ofText, PayloadKind.ofLiteral?_eq_none_iff.2 h]

/-- A text names a kind, or becomes a tag as it is. -/
theorem ofText_cases (s : String) :
    (∃ k : PayloadKind, k.literal = s ∧ ofText s = .known k) ∨
      (∀ k : PayloadKind, k.literal ≠ s) ∧ ofText s = .other s := by
  by_cases h : ∃ k : PayloadKind, k.literal = s
  · obtain ⟨k, hk⟩ := h
    exact .inl ⟨k, hk, ofText_of_literal hk⟩
  · have unnamed : ∀ k : PayloadKind, k.literal ≠ s := fun k hk => h ⟨k, hk⟩
    exact .inr ⟨unnamed, ofText_of_unnamed unnamed⟩

theorem text_ofText (s : String) : (ofText s).text = s := by
  obtain ⟨k, hk, htag⟩ | ⟨-, htag⟩ := ofText_cases s
  · rw [htag]
    exact hk
  · rw [htag]
    rfl

theorem isKnown_ofText_iff {s : String} : (ofText s).isKnown = true ↔ s ∈ literals := by
  rw [mem_literals_iff]
  obtain ⟨k, hk, htag⟩ | ⟨unnamed, htag⟩ := ofText_cases s
  · simp only [htag, isKnown, true_iff]
    exact ⟨k, hk⟩
  · simpa [htag, isKnown] using unnamed

/-! ## Out and in -/

theorem ofText_text {tag : Tag} (h : tag.Readable) : ofText tag.text = tag := by
  cases tag with
  | known kind => exact ofText_of_literal rfl
  | other text => exact ofText_of_unnamed h

theorem ofText_written {tag : Tag} (h : tag.Readable) : ofText tag.written = tag := by
  rw [written_eq_text, ofText_text h]

/-- The readable tags are the ones that reading gives. -/
theorem readable_iff {tag : Tag} : tag.Readable ↔ ∃ text, ofText text = tag := by
  constructor
  · intro h
    exact ⟨tag.text, ofText_text h⟩
  · rintro ⟨text, rfl⟩
    obtain ⟨k, -, htag⟩ | ⟨unnamed, htag⟩ := ofText_cases text
    · rw [htag]
      exact trivial
    · rw [htag]
      exact unnamed

/-- A tag is readable unless it hides the literal of a kind. -/
theorem readable_iff_not_hidden {tag : Tag} :
    tag.Readable ↔ ¬ ∃ s ∈ literals, tag = .other s := by
  cases tag with
  | known kind => simp [Readable]
  | other text => simp [Readable, mem_literals_iff]

/-- What is kept of a text that is read as a tag. -/
structure Keeps (s : String) : Prop where
  written : (ofText s).written = s
  text : (ofText s).text = s
  shown : toString (ofText s) = s
  known : (ofText s).isKnown = true ↔ s ∈ literals

theorem keeps (s : String) : Keeps s where
  written := by rw [written_eq_text, text_ofText]
  text := text_ofText s
  shown := text_ofText s
  known := isKnown_ofText_iff

/-- Every text comes out of its tag as it went in, so no two texts become one tag. The tags that
come back as they went out are all but those that hide the literal of a kind. -/
theorem texts_survive :
    (∀ s, Keeps s) ∧ Function.Injective ofText ∧
    (∀ tag : Tag, toString tag = tag.text ∧ tag.written = tag.text) ∧
    ∀ tag, ofText tag.written = tag ↔ ¬ ∃ s ∈ literals, tag = .other s := by
  refine ⟨keeps, ?_, fun tag => ⟨toString_eq_text tag, written_eq_text tag⟩, fun tag => ?_⟩
  · exact Function.LeftInverse.injective text_ofText
  · rw [← readable_iff_not_hidden]
    exact ⟨fun h => readable_iff.2 ⟨_, h⟩, ofText_written⟩

example : Tag.ofText "erc20_transfer" = .other "erc20_transfer" ∧
    Tag.ofText (Tag.other "SPL_APPROVAL").written = .known .splApproval := by decide

end Tag

end SigningPreview
