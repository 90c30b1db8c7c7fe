/-
Pages partition the listing.

There are three views that give out a listing page by page, and they are built alike: a
check that the one who asks may look, a query that sorts the rows that match and cuts a
window out of them, and the number of the rows.  `pagedOut_of_guarded` says once what
comes of that: the pages are those of one listing, in which every matching row is read
once, and the order is strict.

The one thing that can come between is a time that has no room in a timestamp.  A page
that meets it is not given out, and the failure names it.
-/
import AnalysisDesk.Proofs.Store.Dated
import AnalysisDesk.Proofs.Views.Isolation
import AnalysisDesk.Proofs.Views.Listings
import AnalysisDesk.Proofs.Views.Pages

namespace AnalysisDesk

/-- What is answered to the wish for a page of some rows: what is read of them, or else a time that
has no room in a timestamp, which is one of these rows or of what was asked for. -/
inductive PageAnswer {α β : Type} (read : α → Except StoreError β) (asked : Instant → Prop)
    (times : α → Instant → Prop) (page : Page α) : Store.View (Page β) → Prop
  | given (found : Page β) (hplace : found.pagination = page.pagination)
      (hitems : List.Forall₂ (fun row item => read row = .ok item) page.items found.items) :
      PageAnswer read asked times page (.ok (some found))
  | unreadable (t : Instant) (htime : asked t ∨ ∃ row ∈ page.items, times row t)
      (hyear : ¬ t.HasPlainYear) :
      PageAnswer read asked times page (.error (.badTimestamp t.stored .invalid))

/-- A view that gives out the listing of some rows page by page. -/
structure PagedOut {α β : Type} (view : PageRequest → Store.View (Page β)) (items : Nat)
    (read : α → Except StoreError β) (rows : List α) (before : β → β → Prop)
    (asked : Instant → Prop) (times : α → Instant → Prop) : Prop where
  /-- If all times have room in timestamps, the pages are those of the listing. -/
  gives : (∀ t, (asked t ∨ ∃ row ∈ rows, times row t) → t.HasPlainYear) →
    ∃ listing, Lists read rows before listing ∧ GivesOut view items listing
  /-- If not, the pages are those of the rows in order, as far as they can be read. -/
  answers : ∃ order : List α, order.Perm rows ∧ InOrder read before order ∧
    ∀ request : PageRequest, request.page.getD 1 ≤ Limit.word32 →
      PageAnswer read asked times
        (pageOf (request.resolve items).limit order (request.page.getD 1)) (view request)

/-- The rows of a window are read if all rows are. -/
theorem readAll_cut {α β : Type} {read : α → Except StoreError β} {rows : List α} {items : List β}
    (h : readAll read rows = .ok items) (w : Window) :
    readAll read (w.cut rows) = .ok (w.cut items) := by
  rw [readAll_eq_ok_iff] at h ⊢
  exact List.forall₂_take _ (List.forall₂_drop _ h)

section Guarded

variable {α β γ : Type} {view : PageRequest → Store.View (Page β)} {items : Nat}
  {read : α → Except StoreError β} {rows order : List α} {before : β → β → Prop}
  {asked : Instant → Prop} {times : α → Instant → Prop} {owned : Except StoreError (Option γ)}

/-- A page of sorted rows, once it was checked that the one who asks may look. -/
private theorem answer_of_guarded
    (hview : ∀ request, view request = Store.guarded owned
      (((readAll read ((request.resolve items).window.cut order)).map fun found =>
        (found, rows.length)).map (Store.paged (request.resolve items))))
    (howned : Reads asked owned) (hallowed : owned ≠ .ok none) (hperm : order.Perm rows)
    (hread : ∀ row ∈ order, Reads (times row) (read row)) {request : PageRequest}
    (hpage : request.page.getD 1 ≤ Limit.word32) :
    PageAnswer read asked times
      (pageOf (request.resolve items).limit order (request.page.getD 1)) (view request) := by
  have hplace := request.paged_cut items hpage order
  rw [hview, ← hplace, hperm.length_eq]
  rcases howned with ⟨_ | found, hfound⟩ | ⟨t, htime, hyear, hfailed⟩
  · exact absurd hfound hallowed
  · rw [hfound]
    have hcut : ∀ row ∈ (request.resolve items).window.cut order, Reads (times row) (read row) :=
      fun row hrow => hread row (List.mem_of_mem_drop (List.mem_of_mem_take hrow))
    rcases readAll_reads hcut with ⟨found, hfound⟩ | ⟨t, htime, hyear, hfailed⟩
    · rw [hfound]
      exact .given _ rfl (readAll_eq_ok_iff.mp hfound)
    · rw [hfailed]
      exact .unreadable t (Or.inr htime) hyear
  · rw [hfailed]
    exact .unreadable t (Or.inl htime) hyear

/-- **A guarded view of sorted rows gives them out page by page.** -/
theorem pagedOut_of_guarded
    (hview : ∀ request, view request = Store.guarded owned
      (((readAll read ((request.resolve items).window.cut order)).map fun found =>
        (found, rows.length)).map (Store.paged (request.resolve items))))
    (howned : Reads asked owned) (hallowed : owned ≠ .ok none) (hperm : order.Perm rows)
    (hread : ∀ row ∈ rows, Reads (times row) (read row)) (hsorted : InOrder read before order)
    (hstrict : ∀ a b, before a b → ¬ before b a) :
    PagedOut view items read rows before asked times := by
  have horder : ∀ row ∈ order, Reads (times row) (read row) := fun row hrow =>
    hread row (hperm.subset hrow)
  refine ⟨fun hplain => ?_, order, hperm, hsorted, fun request hpage =>
    answer_of_guarded hview howned hallowed hperm horder hpage⟩
  obtain ⟨_ | found, hfound⟩ := howned.ok fun t htime => hplain t (Or.inl htime)
  · exact absurd hfound hallowed
  · obtain ⟨listing, hlisting⟩ := (readAll_reads horder).ok fun t ⟨row, hrow, htime⟩ =>
      hplain t (Or.inr ⟨row, hperm.subset hrow, htime⟩)
    have hitems := readAll_eq_ok_iff.mp hlisting
    have hcount : listing.length = rows.length := by
      rw [← hitems.length_eq, hperm.length_eq]
    refine ⟨listing, ⟨hcount, ⟨order, hperm, hitems⟩, hsorted.pairwise hitems, hstrict⟩, ?_⟩
    refine givesOut_of_cut fun request => ?_
    rw [hview, hfound, readAll_cut hlisting, hcount]
    rfl

end Guarded

namespace Store

variable {s : Store}

/-! ### Who may look -/

/-- Whether a user owns a repository. -/
def OwnsRepository (s : Store) (user repository : Int) : Prop :=
  ∃ row ∈ s.repositories, row.id = repository ∧ row.userId = user

/-- Whether an instant is when a repository was created. -/
def IsRepositoryTime (s : Store) (repository : Int) (t : Instant) : Prop :=
  ∃ row ∈ s.repositories, row.id = repository ∧ row.createdAt = t.stored

/-- Whether an instant is when a user was created. -/
def IsUserTime (s : Store) (user : Int) (t : Instant) : Prop :=
  ∃ row ∈ s.users, row.id = user ∧ row.createdAt = t.stored

theorem readTimestamp_reads {times : Instant → Prop} {text : String}
    (hstored : ∃ t : Instant, text = t.stored) (htimes : ∀ t : Instant, text = t.stored → times t) :
    Reads times (readTimestamp text) := by
  obtain ⟨t, rfl⟩ := hstored
  rw [readTimestamp_of_stored]
  by_cases hyear : t.HasPlainYear
  · exact Or.inl ⟨t.cut, if_pos hyear⟩
  · exact Or.inr ⟨t, htimes t rfl, hyear, if_neg hyear⟩

/-- Whether the only row of a list can be read hangs on the row. -/
theorem readOne_reads {α β : Type} {times : Instant → Prop} {read : α → Except StoreError β}
    {row? : Option α} (h : ∀ row, row? = some row → Reads times (read row)) :
    Reads times (readOne read row?) := by
  cases row? with
  | none => exact Or.inl ⟨none, rfl⟩
  | some row =>
      rcases h row rfl with ⟨b, hread⟩ | ⟨t, htime, hyear, hread⟩
      · rw [readOne, hread]
        exact Or.inl ⟨some b, rfl⟩
      · rw [readOne, hread]
        exact Or.inr ⟨t, htime, hyear, rfl⟩

theorem Entered.ownedRepository?_reads (h : s.Entered) (repository user : Int) :
    Reads (s.IsRepositoryTime repository) (s.ownedRepository? repository user) := by
  refine readOne_reads fun row hrow => ?_
  have hmem := List.mem_of_find?_eq_some hrow
  have hkey := List.find?_some hrow
  rw [Bool.and_eq_true, beq_iff_eq] at hkey
  have hread : Reads (s.IsRepositoryTime repository) (readTimestamp row.createdAt) :=
    readTimestamp_reads (h.repositories row hmem) fun t ht => ⟨row, hmem, hkey.1, ht⟩
  exact hread.bind fun _ => Or.inl ⟨_, rfl⟩

theorem Entered.user?_reads (h : s.Entered) (user : Int) :
    Reads (s.IsUserTime user) (s.user? user) := by
  refine readOne_reads fun row hrow => ?_
  have hmem := List.mem_of_find?_eq_some hrow
  have hkey := List.find?_some hrow
  rw [beq_iff_eq] at hkey
  have hread : Reads (s.IsUserTime user) (readTimestamp row.createdAt) :=
    readTimestamp_reads (h.users row hmem) fun t ht => ⟨row, hmem, hkey, ht⟩
  exact hread.bind fun _ => Or.inl ⟨_, rfl⟩

theorem Reached.ownedJob?_reads (hs : s.Reached) {job : JobId} {row : JobRow}
    (hrow : s.jobRow? job = some row) (user : Int) :
    Reads (fun t => row.IsTime t.stored) (s.ownedJob? job user) := by
  refine readOne_reads fun found hfound => ?_
  have hkey := List.find?_some hfound
  rw [Bool.and_eq_true, beq_iff_eq] at hkey
  have hlookup : s.jobRow? job = some found :=
    (jobRow?_eq_some_iff hs.wf.ids).mpr ⟨List.mem_of_find?_eq_some hfound, hkey.1⟩
  have hsame : found = row := Option.some.inj (hlookup.symm.trans hrow)
  rw [hsame]
  exact hs.job_reads (jobRow?_mem hrow).1

theorem ownedRepository?_ne_none {repository user : Int} (h : s.OwnsRepository user repository) :
    s.ownedRepository? repository user ≠ .ok none := by
  intro hnone
  obtain ⟨row, hmem, hid, huser⟩ := h
  have hnot := List.find?_eq_none.mp (readOne_none hnone) row hmem
  rw [hid, huser, beq_self_eq_true, beq_self_eq_true] at hnot
  exact hnot rfl

theorem user?_ne_none {user : Int} (h : (s.userRow? user).isSome = true) :
    s.user? user ≠ .ok none := by
  intro hnone
  rw [readOne_none hnone] at h
  exact Bool.false_ne_true h

/-! ### The views -/

/-- A repository's jobs are given out to its owner page by page, newest first. -/
theorem Reached.repositoryPages (hs : s.Reached) {repository user : Int}
    (howns : s.OwnsRepository user repository) :
    PagedOut (fun request => s.repositoryPage repository request user) PageRequest.jobItems
      JobRow.read (s.repositoryJobRows repository) s.Newer (s.IsRepositoryTime repository)
      fun row t => row.IsTime t.stored := by
  have hrows : (s.repositoryJobRows repository).Sublist s.jobs := List.filter_sublist
  exact pagedOut_of_guarded (fun request => rfl)
    (hs.entered.ownedRepository?_reads repository user) (ownedRepository?_ne_none howns)
    (newestFirst_perm _) (fun row hrow => hs.job_reads (hrows.subset hrow))
    (hs.newestFirst_inOrder hrows) hs.wf.newer_strict

/-- A user's jobs are given out to the user page by page, newest first. -/
theorem Reached.userPages (hs : s.Reached) {user : Int}
    (hexists : (s.userRow? user).isSome = true) :
    PagedOut (fun request => s.userPage request user) PageRequest.jobItems
      JobRow.read (s.userJobRows user) s.Newer (s.IsUserTime user)
      fun row t => row.IsTime t.stored := by
  have hrows : (s.userJobRows user).Sublist s.jobs := List.filter_sublist
  exact pagedOut_of_guarded (fun request => rfl) (hs.entered.user?_reads user)
    (user?_ne_none hexists) (newestFirst_perm _)
    (fun row hrow => hs.job_reads (hrows.subset hrow)) (hs.newestFirst_inOrder hrows)
    hs.wf.newer_strict

/-- The issues of a job are given out to its owner page by page, worst first. -/
theorem Reached.issuePages (hs : s.Reached) {job : JobId} {user : Int} {row : JobRow}
    (hrow : s.jobRow? job = some row) (howns : s.owns user row = true) (filter : IssueFilter) :
    PagedOut (fun request => s.issuePage job filter request user) PageRequest.issueItems
      IssueRow.read (s.issueRowsOf job filter) s.Worse (fun t => row.IsTime t.stored)
      fun _ _ => False := by
  have hrows : (s.issueRowsOf job filter).Sublist s.issues := List.filter_sublist
  exact pagedOut_of_guarded (fun request => rfl) (hs.ownedJob?_reads hrow user)
    (ownedJob?_ne_none hrow howns) (List.mergeSort_perm _ _)
    (fun row hrow => hs.entered.issue_reads _ row (hrows.subset hrow))
    (hs.worstFirst_inOrder hrows) hs.numbered.worse_strict

/-- **Pages partition the listing.**  In every reachable store each view that gives out pages gives
out one listing, whoever asks for it and may, and however many items a page shall have: every row
that matches is on one of the pages, once, in a strict order, and the pages are full but for the
last.  The only reason for a page to be missing is a stored time that has no room in a timestamp, of
one of its rows or of what was asked for; the other pages are given out all the same.  No page lies
so far behind that its place could not be told, and the latest jobs are a first page. -/
theorem pages_partition_listing (s : Store) (hs : s.Reached) :
    (∀ repository user, s.OwnsRepository user repository →
      PagedOut (fun request => s.repositoryPage repository request user) PageRequest.jobItems
        JobRow.read (s.repositoryJobRows repository) s.Newer (s.IsRepositoryTime repository)
        fun row t => row.IsTime t.stored) ∧
    (∀ user, (s.userRow? user).isSome = true →
      PagedOut (fun request => s.userPage request user) PageRequest.jobItems
        JobRow.read (s.userJobRows user) s.Newer (s.IsUserTime user)
        fun row t => row.IsTime t.stored) ∧
    (∀ job row user filter, s.jobRow? job = some row → s.owns user row = true →
      PagedOut (fun request => s.issuePage job filter request user) PageRequest.issueItems
        IssueRow.read (s.issueRowsOf job filter) s.Worse (fun t => row.IsTime t.stored)
        fun _ _ => False) ∧
    (∀ (request : PageRequest) (items : Nat), request.page.getD 1 ≤ Limit.word32 →
      Limit.holds64 (request.resolve items).offset = true) ∧
    ∀ (limit? : Option Nat) (user : Int), s.latestJobs limit? user
      = (s.userPage ⟨some 1, some (limit?.getD 5)⟩ user).map (Option.map Page.items) := by
  refine ⟨fun repository user howns => hs.repositoryPages howns,
    fun user hexists => hs.userPages hexists,
    fun job row user filter hrow howns => hs.issuePages hrow howns filter,
    fun request items hpage => PageRequest.holds64_offset hpage, fun limit? user => ?_⟩
  have hlatest : (5 : Nat) = PageRequest.latestItems := rfl
  unfold latestJobs
  rw [hlatest]
  cases s.userPage ⟨some 1, some (limit?.getD PageRequest.latestItems)⟩ user <;> rfl

end Store

namespace Small

/-- A store with a job that was completed and one that failed, both with findings. -/
def reported : Store :=
  Store.empty.afterAll
    [(.createUser "ada", ⟨0⟩),
      (.createRepository 1 "site" "https://git.example.com/site.git" "main", ⟨1⟩),
      (.createJob default ⟨1, "https://git.example.com/site.git", "main", none⟩, ⟨2⟩),
      (.markDispatched default "h-1", ⟨3⟩),
      (.applyReport Store.noneRefused default
        { status := .completed, qualityScore := none, maintainabilityIndex := none,
          complexityScore := none, securityRating := none, issuesFound := 3, filesAnalyzed := none,
          issues := [⟨.high, "style", "long line", none, none, "a.c", some 4⟩,
            ⟨.critical, "safety", "overflow", none, none, "b.c", none⟩,
            ⟨.high, "safety", "unchecked", none, none, "b.c", some 2⟩],
          metrics := [⟨"lines", .zero, some "a.c"⟩, ⟨"lines", .ofNat 3, some "b.c"⟩],
          error := none }, ⟨4⟩),
      (.createJob otherJob ⟨1, "https://git.example.com/site.git", "main", none⟩, ⟨5⟩),
      (.markDispatched otherJob "h-2", ⟨6⟩),
      (.applyReport Store.noneRefused otherJob
        { status := .failed, qualityScore := none, maintainabilityIndex := none,
          complexityScore := none, securityRating := none, issuesFound := 1, filesAnalyzed := none,
          issues := [⟨.critical, "safety", "overflow", none, none, "b.c", none⟩],
          metrics := [], error := some "out of memory" }, ⟨7⟩)]

theorem reported_reachedInYears : reported.ReachedInYears :=
  Store.ReachedInYears.afterAll (by decide +kernel) .empty

end Small

namespace Store

/-- Two jobs and three issues, so that there is a second page if there is to be one item on each.  The
issues have two severities, and one of them has no line number. -/
theorem pages_partition_listing_played :
    Small.reported.Reached ∧ (Small.reported.repositoryJobRows 1).length = 2 ∧
      (Small.reported.userJobRows 1).length = 2 ∧
      (Small.reported.issueRowsOf default .all).length = 3 ∧
      (∃ listing, Lists JobRow.read (Small.reported.repositoryJobRows 1) Small.reported.Newer
          listing ∧
        GivesOut (fun request => Small.reported.repositoryPage 1 request 1) PageRequest.jobItems
          listing) ∧
      (∃ listing, Lists JobRow.read (Small.reported.userJobRows 1) Small.reported.Newer listing ∧
        GivesOut (fun request => Small.reported.userPage request 1) PageRequest.jobItems listing) ∧
      ∃ listing, Lists IssueRow.read (Small.reported.issueRowsOf default .all)
          Small.reported.Worse listing ∧
        GivesOut (fun request => Small.reported.issuePage default .all request 1)
          PageRequest.issueItems listing := by
  have hs := Small.reported_reachedInYears
  have hpages := pages_partition_listing Small.reported hs.reached
  have howns : Small.reported.OwnsRepository 1 1 := ⟨_, List.mem_singleton_self _, rfl, rfl⟩
  obtain ⟨row, hrow⟩ : ∃ row, Small.reported.jobRow? default = some row :=
    Option.isSome_iff_exists.mp (by decide +kernel)
  have hall : ∀ row ∈ Small.reported.jobs, Small.reported.owns 1 row = true := by decide +kernel
  have hmem := (jobRow?_mem hrow).1
  refine ⟨hs.reached, by decide +kernel, by decide +kernel, by decide +kernel,
    (hpages.1 1 1 howns).gives fun t htime => ?_,
    (hpages.2.1 1 (by decide +kernel)).gives fun t htime => ?_,
    (hpages.2.2.1 default row 1 .all hrow (hall row hmem)).gives fun t htime => ?_⟩
  · rcases htime with ⟨repository, hin, -, htime⟩ | ⟨other, hother, htime⟩
    · exact hs.dated.repositories repository hin t htime
    · exact hs.dated.jobs other (List.mem_filter.mp hother).1 t htime
  · rcases htime with ⟨found, hin, -, htime⟩ | ⟨other, hother, htime⟩
    · exact hs.dated.users found hin t htime
    · exact hs.dated.jobs other (List.mem_filter.mp hother).1 t htime
  · rcases htime with htime | ⟨_, _, hnone⟩
    · exact hs.dated.jobs row hmem t htime
    · exact hnone.elim

/-- A repository with one job, of which its owner gets no page: the job cannot be read. -/
theorem pages_of_undated :
    Small.undated.Reached ∧ Small.undated.OwnsRepository 1 1 ∧
      (Small.undated.repositoryJobRows 1).length = 1 ∧
      ¬ ∃ listing,
        Lists JobRow.read (Small.undated.repositoryJobRows 1) Small.undated.Newer listing ∧
          GivesOut (fun request => Small.undated.repositoryPage 1 request 1) PageRequest.jobItems
            listing := by
  refine ⟨Small.undated_reached, ⟨_, List.mem_singleton_self _, rfl, rfl⟩, by decide +kernel, ?_⟩
  rintro ⟨listing, -, hgives⟩
  obtain ⟨last, page, -, -, hfirst⟩ := hgives none
  have hfailed : Small.undated.repositoryPage 1 ⟨none, none⟩ 1
      = .error (.badTimestamp "+10000-01-01T00:00:00.000Z" .invalid) := by decide +kernel
  exact nomatch hfailed.symm.trans hfirst

end Store

end AnalysisDesk
