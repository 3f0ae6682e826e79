import WalletWatch.Proofs.Separation
import WalletWatch.Proofs.Transactions
/-!
# The last report wins

A report overwrites what an earlier one of its feed wrote (`Report.write_absorb`), so an element that
is for the reports of one feed shows what this feed told last, and nothing of what it told before
(`Report.writeAll_eq_lastOf`). On the elements of a template this is so as long as no colour of the
server names a class of another feed (`Report.writeAll_of_template`).
-/

namespace WalletWatch

namespace Report

def height? : Report → Option HeightReport
  | blockHeight r => some r
  | _ => none

/-- The height that some reports told last. -/
def lastHeight? (reports : List Report) : Option HeightReport :=
  (reports.filterMap height?).getLast?

/-- The last of some reports that a feed sent. -/
def lastOf (feed : Feed) (reports : List Report) : Option Report :=
  (reports.filter (·.feed = feed)).getLast?

variable {feed : Feed} {reports : List Report} {report : Report} {e : Element}

theorem lastOf_append_own (own : report.feed = feed) :
    lastOf feed (reports ++ [report]) = some report := by
  simp [lastOf, own]

theorem lastOf_append_other (other : report.feed ≠ feed) :
    lastOf feed (reports ++ [report]) = lastOf feed reports := by
  simp [lastOf, other]

theorem mem_of_lastOf (h : lastOf feed reports = some report) :
    report ∈ reports ∧ report.feed = feed := by
  obtain ⟨mem, own⟩ := List.mem_filter.1 (List.mem_of_getLast? h)
  exact ⟨mem, of_decide_eq_true own⟩

theorem lastOf_blockHeight (reports : List Report) :
    lastOf .blockHeight reports = (lastHeight? reports).map blockHeight := by
  induction reports using List.reverseRecOn with
  | nil => rfl
  | append_singleton reports report ih =>
    rw [lastHeight?, List.filterMap_append, List.getLast?_append]
    cases report with
    | blockHeight r => exact lastOf_append_own rfl
    | _ => rw [lastOf_append_other (by simp [Report.feed]), ih]; rfl

theorem lastOf_balance (reports : List Report) :
    lastOf .balance reports = (lastBalance? reports).map balance := by
  induction reports using List.reverseRecOn with
  | nil => rfl
  | append_singleton reports report ih =>
    rw [lastBalance?, List.filterMap_append, List.getLast?_append]
    cases report with
    | balance r => exact lastOf_append_own rfl
    | _ => rw [lastOf_append_other (by simp [Report.feed]), ih]; rfl

/-! ## Reports of several feeds -/

/-- An element that the reports of other feeds leave alone, as it is and as its own feed writes it,
shows the last report of its feed. -/
theorem writeAll_eq_lastOf
    (apart : ∀ report ∈ reports, report.feed ≠ feed → report.write e = e ∧
      ∀ own ∈ reports, own.feed = feed → report.write (own.write e) = own.write e) :
    writeAll reports e = ((lastOf feed reports).map (·.write e)).getD e := by
  induction reports using List.reverseRecOn with
  | nil => rfl
  | append_singleton reports report ih =>
    have before : writeAll reports e = ((lastOf feed reports).map (·.write e)).getD e :=
      ih fun r hr other =>
        have ⟨blank, written⟩ := apart r (List.mem_append_left _ hr) other
        ⟨blank, fun own ho => written own (List.mem_append_left _ ho)⟩
    rw [writeAll_append, writeAll_singleton, before]
    by_cases own : report.feed = feed
    · rw [lastOf_append_own own]
      cases last : lastOf feed reports with
      | none => rfl
      | some earlier => exact write_absorb ((mem_of_lastOf last).2.trans own.symm) e
    · obtain ⟨blank, written⟩ := apart report (by simp) own
      rw [lastOf_append_other own]
      cases last : lastOf feed reports with
      | none => exact blank
      | some earlier =>
        obtain ⟨mem, told⟩ := mem_of_lastOf last
        exact written earlier (List.mem_append_left _ mem) told

/-- An element of a template shows the last report of the feed that it is for, if no colour names a
class of another feed than the height. -/
theorem writeAll_of_template {s : Screen} {t : Element} (ht : t ∈ s.elements)
    (target : feed.Writes t)
    (colours : ∀ r, .blockHeight r ∈ reports → ∀ other : Feed, other ≠ .blockHeight →
      ¬ other.NamedBy r.tag) :
    writeAll reports t = ((lastOf feed reports).map (·.write t)).getD t := by
  obtain ⟨unique, plain⟩ := Screen.writes_unique ht
  refine writeAll_eq_lastOf fun report _ other => ?_
  have blank : ¬ report.feed.Writes t := fun also => other (unique _ _ also target)
  refine ⟨write_of_untouched blank, fun own ho told => write_of_untouched ?_⟩
  rcases className_write own t with same | ⟨r, rfl, status, coloured⟩
  · rwa [Feed.writes_congr same (id_write own t)]
  · have foreign : report.feed ≠ .blockHeight := fun height => other (height.trans told)
    rintro (⟨name, listed, carried⟩ | ⟨name, -, named⟩)
    · rcases (Element.hasClass_of_statusClass coloured).1 carried with rfl | word
      · exact foreign (Feed.status_mem_classes_iff.1 listed)
      · exact colours r ho _ foreign ⟨name, listed, word⟩
    · rw [Element.hasId, id_write, plain status] at named
      cases named

end Report

end WalletWatch
