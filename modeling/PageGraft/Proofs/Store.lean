import PageGraft.File.Store

/-!
# What a write changes

Writing a file that is there changes what is found at the paths that lead to it (`Store.find_write_self`)
and nothing else (`Store.find_write_other`). The directories on the way to the file are there already,
so no path leads anywhere else than before (`Store.follow_congr`).
-/

namespace PageGraft.File

namespace Store

variable {store : Store} {path : Path} {location : Location} {entry : Entry}

theorem lookup_setFile {files : List (Location × Entry)} {other : Location} :
    (setFile files location entry).lookup other =
      if other = location then some entry else files.lookup other := by
  induction files with
  | nil =>
    rw [setFile, List.lookup_cons, List.lookup_nil]
    by_cases hother : other = location
    · rw [if_pos hother, beq_iff_eq.mpr hother]
    · rw [if_neg hother, beq_eq_false_iff_ne.mpr hother]
  | cons first files ih =>
    obtain ⟨place, old⟩ := first
    rw [setFile]
    split
    · rename_i hplace
      subst hplace
      rw [List.lookup_cons, List.lookup_cons]
      by_cases hother : other = place
      · rw [if_pos hother, beq_iff_eq.mpr hother]
      · rw [if_neg hother, beq_eq_false_iff_ne.mpr hother]
    · rename_i hplace
      rw [List.lookup_cons, List.lookup_cons]
      by_cases hother : other = place
      · rw [beq_iff_eq.mpr hother, if_neg (by rwa [hother])]
      · rw [beq_eq_false_iff_ne.mpr hother]
        exact ih

/-! ## The way to a file -/

/-- Every location on the way to a location is a directory. -/
def IsReached (store : Store) (location : Location) : Prop :=
  ∀ above, above <+: location → above ≠ location → store.hasDirectory above

theorem isReached_append {part : String} (hreached : store.IsReached location)
    (hdirectory : store.hasDirectory location) : store.IsReached (location ++ [part]) := by
  intro above habove hne
  rcases List.prefix_concat_iff.mp habove with hwhole | hbefore
  · exact absurd hwhole hne
  · by_cases hlocation : above = location
    · rwa [hlocation]
    · exact hreached above hbefore hlocation

theorem isReached_parent (hreached : store.IsReached location)
    (hdirectory : store.hasDirectory location) : store.IsReached location.parent := by
  unfold Location.parent
  split
  · rename_i hroot
    rwa [← hroot]
  split
  · exact isReached_append hreached hdirectory
  · intro above habove hne
    refine hreached above (habove.trans (List.dropLast_prefix location)) ?_
    rintro rfl
    have hlength := habove.length_le
    rw [List.length_dropLast] at hlength
    have hnil : above = [] := List.length_eq_zero_iff.mp (by omega)
    exact hne (by rw [hnil]; rfl)

theorem isReached_start : store.IsReached (if path.root = "" then [] else Location.root) := by
  intro above habove hne
  have hnil : above = [] := by
    split at habove
    · exact List.prefix_nil.mp habove
    · rw [if_neg ‹_›] at hne
      exact (List.prefix_concat_iff.mp habove).elim (absurd · hne) List.prefix_nil.mp
  rw [hnil]
  rfl

/-- Following a path passes through directories only. -/
theorem isReached_follow {parts : List String} {reached : Location}
    (hreached : store.IsReached location) (hfollow : store.follow location parts = .ok reached) :
    store.IsReached reached := by
  induction parts generalizing location with
  | nil =>
    obtain rfl := Except.ok.inj hfollow
    exact hreached
  | cons part parts ih =>
    rw [follow] at hfollow
    split at hfollow
    · rename_i hdirectory
      split at hfollow
      · exact absurd hfollow (by nofun)
      split at hfollow
      · exact absurd hfollow (by nofun)
      split at hfollow
      · exact ih (isReached_parent hreached hdirectory) hfollow
      · exact ih (isReached_append hreached hdirectory) hfollow
    · split at hfollow
      · exact absurd hfollow (by nofun)
      · exact absurd hfollow (by nofun)

theorem isReached_locate (hlocate : store.locate path = .ok location) :
    store.IsReached location := by
  rw [locate] at hlocate
  split at hlocate
  · exact absurd hlocate (by nofun)
  · split at hlocate
    · exact absurd hlocate (by nofun)
    · exact isReached_follow isReached_start hlocate

/-- Paths lead to the same places in stores with the same directories and files. -/
theorem follow_congr {other : Store} {parts : List String}
    (hdirectory : ∀ place, other.hasDirectory place = store.hasDirectory place)
    (hclosed : other.closed = store.closed)
    (hfile : ∀ place, (other.file? place).isSome = (store.file? place).isSome) :
    other.follow location parts = store.follow location parts := by
  induction parts generalizing location with
  | nil => rfl
  | cons part parts ih => rw [follow, follow, hdirectory, hclosed, hfile, ih, ih]

/-! ## Reading -/

/-- A file that is read is found, and nothing is in the way. -/
theorem read_eq_ok :
    store.read path = .ok entry ↔ store.find path = .ok entry ∧ store.barrier? path = none := by
  unfold read
  cases store.find path with
  | error obstacle => exact iff_of_false nofun nofun
  | ok found => cases store.barrier? path <;> simp [bind, Except.bind]

theorem read_of_barrier {obstacle : Obstacle} (hfind : store.find path = .ok entry)
    (hbarrier : store.barrier? path = some obstacle) : store.read path = .error obstacle := by
  simp only [read, hfind, hbarrier, bind, Except.bind]

/-! ## Writing a file that is there -/

theorem find_eq_ok :
    store.find path = .ok entry ↔
      ∃ location, store.locate path = .ok location ∧ store.file? location = some entry := by
  rw [find]
  cases store.locate path with
  | error obstacle => simp [bind, Except.bind]
  | ok location =>
    simp only [bind, Except.bind, Except.ok.injEq, exists_eq_left']
    cases store.file? location with
    | none => simp
    | some found => simp

section

variable {octets : List UInt8} {modified : Option Int}

theorem file?_write {other : Location} (hlocate : store.locate path = .ok location) :
    (store.write path octets modified).file? other =
      if other = location then some ⟨octets, modified.getD store.clock⟩ else store.file? other := by
  simp only [file?, write, newLocation, hlocate]
  exact lookup_setFile

theorem hasDirectory_write {other : Location} (hlocate : store.locate path = .ok location) :
    (store.write path octets modified).hasDirectory other = store.hasDirectory other := by
  have hparents : ∀ place ∈ parents location, store.hasDirectory place := by
    intro place hplace
    obtain ⟨length, hlength, rfl⟩ := List.mem_map.mp hplace
    rw [List.mem_range] at hlength
    refine isReached_locate hlocate _ (List.take_prefix length location) ?_
    intro hwhole
    have := congrArg List.length hwhole
    rw [List.length_take] at this
    omega
  have hwritten : (store.write path octets modified).directories =
      (store.directories ++ parents location).eraseDups := by
    simp only [write, newLocation, hlocate]
  rw [Bool.eq_iff_iff]
  simp only [hasDirectory, hwritten, Bool.or_eq_true, List.contains_iff_mem, List.mem_eraseDups,
    List.mem_append]
  constructor
  · rintro (hother | hmem | hmem)
    · exact .inl hother
    · exact .inr hmem
    · simpa [hasDirectory] using hparents other hmem
  · rintro (hother | hmem)
    · exact .inl hother
    · exact .inr (.inl hmem)

theorem locate_write {other : Path} (hfind : store.find path = .ok entry) :
    (store.write path octets modified).locate other = store.locate other := by
  obtain ⟨location, hlocate, hfile⟩ := find_eq_ok.mp hfind
  have hsame : ∀ place, ((store.write path octets modified).file? place).isSome =
      (store.file? place).isSome := by
    intro place
    rw [file?_write hlocate]
    split
    · rename_i hplace
      rw [hplace, hfile]
      rfl
    · rfl
  have hfollow : ∀ from_ parts, (store.write path octets modified).follow from_ parts =
      store.follow from_ parts :=
    fun _ _ => follow_congr (fun place => hasDirectory_write hlocate) rfl hsame
  rw [locate, locate, hfollow]

/-- What was written is found. -/
theorem find_write_self {other : Path} (hfind : store.find path = .ok entry)
    (hother : store.locate other = store.locate path) :
    (store.write path octets modified).find other =
      .ok ⟨octets, modified.getD store.clock⟩ := by
  obtain ⟨location, hlocate, -⟩ := find_eq_ok.mp hfind
  refine find_eq_ok.mpr ⟨location, ?_, ?_⟩
  · rw [locate_write hfind, hother, hlocate]
  · rw [file?_write hlocate, if_pos rfl]

/-- Every other file is as it was. -/
theorem find_write_other {other : Path} (hfind : store.find path = .ok entry)
    (hother : store.locate other ≠ store.locate path) :
    (store.write path octets modified).find other = store.find other := by
  obtain ⟨location, hlocate, -⟩ := find_eq_ok.mp hfind
  rw [find, find, locate_write hfind]
  cases hplace : store.locate other with
  | error obstacle => rfl
  | ok place =>
    have hne : place ≠ location := by
      rintro rfl
      exact hother (hplace.trans hlocate.symm)
    simp only [bind, Except.bind, file?_write hlocate, if_neg hne, hasDirectory_write hlocate]

/-- The file at a path holds some octets now, and all other files and directories are as before. -/
def OnlyWrites (before after : Store) (path : Path) (octets : List UInt8) : Prop :=
  ∀ other,
    (before.locate other = before.locate path →
      ∃ entry, after.find other = .ok entry ∧ entry.octets = octets) ∧
    (before.locate other ≠ before.locate path → after.find other = before.find other)

theorem onlyWrites_write (hfind : store.find path = .ok entry) :
    OnlyWrites store (store.write path octets modified) path octets := by
  intro other
  exact ⟨fun hsame => ⟨_, find_write_self hfind hsame, rfl⟩, find_write_other hfind⟩

end

end Store

end PageGraft.File
