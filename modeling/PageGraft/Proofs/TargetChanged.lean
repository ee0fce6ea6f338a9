import PageGraft.Proofs.Accounts

/-!
# What a report says of the page

A page is read with all its line ends as newlines, and it is written back so, also when nothing has
been updated. The report compares the texts and not the octets. So it tells whether the file has
changed as long as the page has no carriage return, and on a page that has one only if both have
changed (`targetChanged_iff`).
-/

namespace PageGraft.Text

/-! ## Carriage returns -/

theorem not_mem_universalNewlines {text : List Char} : '\r' ∉ universalNewlines text := by
  fun_induction universalNewlines text with
  | case1 => exact List.not_mem_nil
  | case2 rest ih => simpa using ih
  | case3 rest _ ih => simpa using ih
  | case4 character rest _ hreturn ih =>
    rw [List.mem_cons, not_or]
    exact ⟨fun heq => hreturn heq.symm, ih⟩

/-- Only a text without carriage returns is read as it is. -/
theorem universalNewlines_eq_self {text : List Char} :
    universalNewlines text = text ↔ '\r' ∉ text := by
  constructor
  · intro hself
    rw [← hself]
    exact not_mem_universalNewlines
  · intro hnot
    fun_induction universalNewlines text with
    | case1 => rfl
    | case2 rest ih => simp at hnot
    | case3 rest _ ih => simp at hnot
    | case4 character rest _ hreturn ih =>
      rw [List.mem_cons, not_or] at hnot
      rw [ih hnot.2]

theorem encode_inj {text other : List Char} : encode text = encode other ↔ text = other := by
  constructor
  · intro hencode
    exact Except.ok.inj ((decode_eq_ok.mpr rfl).symm.trans (decode_eq_ok.mpr hencode.symm))
  · exact congrArg encode

theorem mem_encode {text : List Char} : 0x0D ∈ encode text ↔ '\r' ∈ text :=
  ascii_mem_encode (show '\r'.val.toNat < 0x80 by decide)

end PageGraft.Text

namespace PageGraft.Page

open PageGraft.Settings PageGraft.Text

/-! ## Patches that update nothing -/

namespace Patch

/-- As long as nothing has been updated, the page is as it was. -/
def KeepsPage (page : List Char) (patch : Patch) : Prop :=
  patch.text = page ∨ 0 < patch.outcome.updated

end Patch

/-- A patch that updates nothing leaves the page as it is. -/
theorem keepsPage_patch {settings : PatcherSettings} {page : List Char} {extraction : Extraction} :
    (patch settings page extraction).KeepsPage page := by
  have haccounts := accounts_patch settings page extraction
  by_cases hnone : (patch settings page extraction).outcome.updated = 0
  · exact .inl (haccounts.text hnone)
  · exact .inr (Nat.pos_of_ne_zero hnone)

end PageGraft.Page

namespace PageGraft.Sync

open PageGraft.Component PageGraft.File PageGraft.Settings PageGraft.Syntax PageGraft.Text

/-- After a run that reports, the report says that the page has changed exactly if its octets have, if
and only if the page had no carriage return or both have changed. A run that updates nothing leaves the
octets as they are if and only if there was none. -/
theorem targetChanged_iff {parser : Parser} {settings : SyncSettings} {earlier : State}
    {store : Store} {source target : String} {report : Report} {before : Entry}
    (hreport : (runWith parser settings earlier store source target).result = .ok report)
    (hbefore : HasFile store target before) :
    ∃ after, HasFile (runWith parser settings earlier store source target).store target after ∧
      ((report.targetChanged = true ↔ after.octets ≠ before.octets) ↔
        0x0D ∉ before.octets ∨ report.targetChanged = true ∧ after.octets ≠ before.octets) ∧
      (report.updated = 0 → (after.octets = before.octets ↔ 0x0D ∉ before.octets)) := by
  rcases runWith_cases parser settings earlier store source target with
    ⟨file, page, component, root, text, -, -, htarget, -, hroot, htext, hcompletion⟩ |
      ⟨failure, -, hfailure⟩
  · obtain rfl : before = page := Except.ok.inj (hbefore.symm.trans htarget)
    obtain rfl := Except.ok.inj (hcompletion.result.symm.trans hreport)
    obtain ⟨after, hafter, hoctets⟩ := (hcompletion.store (.ofText target)).1 rfl
    refine ⟨after, hafter, ?_⟩
    simp only [Report.of, decide_eq_true_eq, hoctets, ← htext, mem_encode, ne_eq, encode_inj,
      ← universalNewlines_eq_self]
    generalize (extractTree settings.extractor settings.transform component root).extraction =
      extraction
    have hkeeps : (Page.patch settings.patcher (universalNewlines text) extraction).KeepsPage
      (universalNewlines text) := Page.keepsPage_patch
    generalize universalNewlines text = read at hkeeps ⊢
    generalize Page.patch settings.patcher read extraction = patch at hkeeps ⊢
    refine ⟨?_, ?_⟩
    · by_cases hread : read = text
      · rw [hread]
        simp
      · simp only [hread, false_or]
        constructor
        · intro hsame
          by_cases hpatch : patch.text = read
          · rw [hpatch] at hsame
            exact absurd rfl (hsame.mpr hread)
          · exact ⟨hpatch, hsame.mp hpatch⟩
        · rintro ⟨hpatch, hdiffer⟩
          exact iff_of_true hpatch hdiffer
    · intro hupdated
      rcases hkeeps with hkept | hpositive
      · rw [hkept]
      · omega
  · rw [hfailure.result] at hreport
    exact absurd hreport (by nofun)

/-- A store with an empty component and a page whose only line ends with a carriage return and a
newline. -/
def crlfStore : Store :=
  { files := [(["page.js"], ⟨[], 0⟩), (["index.html"], ⟨[0x61, 0x0D, 0x0A], 0⟩)] }

/-- The tree of an empty program, whatever the source is. -/
def emptyProgram : Parser := fun _ => .ok { type := "program" }

/-- The report of a run on these files. -/
def crlfReport : Report where
  source := "page.js"
  target := "index.html"
  functions := 0
  state := 0
  effects := 0
  updated := 0
  skipped := 0

theorem hasFile_crlf : HasFile crlfStore "index.html" ⟨[0x61, 0x0D, 0x0A], 0⟩ := by
  unfold HasFile
  decide

theorem result_crlf :
    (runWith emptyProgram {} .idle crlfStore "page.js" "index.html").result = .ok crlfReport := by
  decide +kernel

/-- A run that finds nothing rewrites a page that has a carriage return, and reports no change. -/
theorem run_crlf :
    (runWith emptyProgram {} .idle crlfStore "page.js" "index.html").result = .ok crlfReport ∧
      crlfReport.updated = 0 ∧ crlfReport.targetChanged = false ∧
      HasFile crlfStore "index.html" ⟨[0x61, 0x0D, 0x0A], 0⟩ ∧
      HasFile (runWith emptyProgram {} .idle crlfStore "page.js" "index.html").store "index.html"
        ⟨[0x61, 0x0A], 0⟩ := by
  refine ⟨result_crlf, rfl, rfl, hasFile_crlf, ?_⟩
  unfold HasFile
  decide +kernel

/-- What `targetChanged_iff` says of that run. -/
theorem targetChanged_iff_crlf :
    ∃ after, HasFile (runWith emptyProgram {} .idle crlfStore "page.js" "index.html").store
        "index.html" after ∧
      ((crlfReport.targetChanged = true ↔ after.octets ≠ [0x61, 0x0D, 0x0A]) ↔
        0x0D ∉ ([0x61, 0x0D, 0x0A] : List UInt8) ∨
          crlfReport.targetChanged = true ∧ after.octets ≠ [0x61, 0x0D, 0x0A]) ∧
      (crlfReport.updated = 0 →
        (after.octets = [0x61, 0x0D, 0x0A] ↔ 0x0D ∉ ([0x61, 0x0D, 0x0A] : List UInt8))) :=
  targetChanged_iff result_crlf hasFile_crlf

end PageGraft.Sync
