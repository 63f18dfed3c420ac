import FileSeal.KeySource

namespace FileSeal

namespace KeySource

variable {σ : Type} [KeySource σ]

/-- A source after some calls, with the files as they are at each of them. -/
def after (files : Nat → FileSystem) (source : σ) : Nat → σ
  | 0 => source
  | n + 1 => (KeySource.read (files n) (after files source n)).next

/-- What a source answers to a call. The first call has the number zero. -/
def answer (files : Nat → FileSystem) (source : σ) (n : Nat) : Except Fault Key :=
  (KeySource.read (files n) (after files source n)).result

/-- All calls before some call fail. -/
def FailsBefore (files : Nat → FileSystem) (source : σ) (n : Nat) : Prop :=
  ∀ i < n, ∃ fault, answer files source i = .error fault

/-- The first call that succeeds, and its key. -/
structure FirstSuccess (files : Nat → FileSystem) (source : σ) (k : Nat) (key : Key) : Prop where
  failing : FailsBefore files source k
  succeeds : answer files source k = .ok key

/-- Either no call ever succeeds, or there is a first one that does. -/
theorem fails_or_firstSuccess (files : Nat → FileSystem) (source : σ) :
    (∀ n, FailsBefore files source n) ∨ ∃ k key, FirstSuccess files source k key := by
  by_cases found : ∃ k key, FirstSuccess files source k key
  · exact .inr found
  · refine .inl fun n => ?_
    induction n with
    | zero => exact fun i impossible => absurd impossible (Nat.not_lt_zero i)
    | succ n ih =>
      intro i lt
      rcases Nat.lt_or_eq_of_le (Nat.le_of_lt_succ lt) with before | rfl
      · exact ih i before
      · cases answered : answer files source i with
        | error fault => exact ⟨fault, rfl⟩
        | ok key => exact absurd ⟨i, key, ih, answered⟩ found

theorem FailsBefore.mono {files : Nat → FileSystem} {source : σ} {m n : Nat}
    (h : FailsBefore files source n) (le : m ≤ n) : FailsBefore files source m :=
  fun i lt => h i (Nat.lt_of_lt_of_le lt le)

end KeySource

open KeySource

theorem Counted.after_eq {σ : Type} [KeySource σ] (files : Nat → FileSystem) (source : σ)
    (n : Nat) :
    after files ({ source } : Counted σ) n = { source := after files source n, reads := n } := by
  induction n with
  | zero => rfl
  | succ n ih =>
    rw [after, ih]
    rfl

theorem Counted.answer_eq {σ : Type} [KeySource σ] (files : Nat → FileSystem) (source : σ)
    (n : Nat) : answer files ({ source } : Counted σ) n = answer files source n := by
  rw [answer, Counted.after_eq]
  rfl

namespace Cached

variable {σ : Type}

/-- A number of new caches, one around the other. -/
def wrapped (inner : Cached σ) : Nat → Cached σ
  | 0 => inner
  | depth + 1 => around (wrapped inner depth)

theorem wrapped_eq_cache (held : Option Key) (inner : Cached σ) (depth : Nat) :
    ∃ held' inner', wrapped (cache held inner) depth = cache held' inner' := by
  cases depth with
  | zero => exact ⟨held, inner, rfl⟩
  | succ depth => exact ⟨none, wrapped (cache held inner) depth, rfl⟩

variable [KeySource σ]

theorem after_direct (files : Nat → FileSystem) (source : σ) (n : Nat) :
    after files (direct source) n = direct (after files source n) := by
  induction n with
  | zero => rfl
  | succ n ih =>
    rw [after, ih]
    rfl

theorem answer_direct (files : Nat → FileSystem) (source : σ) (n : Nat) :
    answer files (direct source) n = answer files source n := by
  rw [answer, after_direct]
  rfl

theorem read_cache_some (fs : FileSystem) (key : Key) (inner : Cached σ) :
    KeySource.read fs (cache (some key) inner) =
      { result := .ok key, next := cache (some key) inner } := rfl

theorem read_cache_none (fs : FileSystem) (inner : Cached σ) :
    KeySource.read fs (cache none inner) =
      { KeySource.read fs inner with
        next := cache (KeySource.read fs inner).result.toOption (KeySource.read fs inner).next } :=
  rfl

/-- As long as there is no key, a cache passes every call on. -/
theorem after_around {files : Nat → FileSystem} {inner : Cached σ} {n : Nat}
    (failing : FailsBefore files inner n) :
    after files inner.around n = around (after files inner n) := by
  induction n with
  | zero => rfl
  | succ n ih =>
    obtain ⟨fault, failed⟩ := failing n (Nat.lt_succ_self n)
    have failed : (KeySource.read (files n) (after files inner n)).result = .error fault := failed
    rw [after, ih (failing.mono (Nat.le_succ n)), around, read_cache_none, failed]
    rfl

theorem answer_around {files : Nat → FileSystem} {inner : Cached σ} {n : Nat}
    (failing : FailsBefore files inner n) :
    answer files inner.around n = answer files inner n := by
  rw [answer, after_around failing, around, read_cache_none]
  rfl

/-- Once there is a key, a cache answers with it and leaves the source behind it alone. -/
theorem after_around_of_success {files : Nat → FileSystem} {inner : Cached σ} {k : Nat} {key : Key}
    (first : FirstSuccess files inner k key) (n : Nat) :
    after files inner.around (k + 1 + n) = cache (some key) (after files inner (k + 1)) := by
  induction n with
  | zero =>
    have found : (KeySource.read (files k) (after files inner k)).result = .ok key :=
      first.succeeds
    rw [Nat.add_zero, after, after_around first.failing, around, read_cache_none, found]
    rfl
  | succ n ih =>
    rw [← Nat.add_assoc, after, ih, read_cache_some]

theorem answer_around_of_success {files : Nat → FileSystem} {inner : Cached σ} {k i : Nat}
    {key : Key} (first : FirstSuccess files inner k key) (late : k ≤ i) :
    answer files inner.around i = .ok key := by
  rcases Nat.eq_or_lt_of_le late with rfl | later
  · rw [answer_around first.failing]
    exact first.succeeds
  · obtain ⟨n, rfl⟩ := Nat.exists_eq_add_of_le later
    rw [answer, after_around_of_success first, read_cache_some]

theorem innermost_after_around {files : Nat → FileSystem} {inner : Cached σ} {k : Nat} {key : Key}
    (first : FirstSuccess files inner k key) (n : Nat) :
    (after files inner.around n).innermost = (after files inner (min n (k + 1))).innermost := by
  rcases Nat.lt_or_ge k n with late | early
  · obtain ⟨m, rfl⟩ := Nat.exists_eq_add_of_le late
    rw [after_around_of_success first, Nat.min_eq_right late]
    rfl
  · rw [after_around (first.failing.mono early), Nat.min_eq_left (Nat.le_succ_of_le early)]
    rfl

/-- What is preserved by every call if one source is as good as another: their answers are the same,
and so is what has become of the innermost source. -/
structure Simulates (related : Cached σ → Cached σ → Prop) : Prop where
  innermost : ∀ {outer inner}, related outer inner → outer.innermost = inner.innermost
  result : ∀ {outer inner}, related outer inner → ∀ fs,
    (KeySource.read fs outer).result = (KeySource.read fs inner).result
  next : ∀ {outer inner}, related outer inner → ∀ fs,
    related (KeySource.read fs outer).next (KeySource.read fs inner).next

theorem Simulates.after {related : Cached σ → Cached σ → Prop} (h : Simulates related)
    {outer inner : Cached σ} (start : related outer inner) (files : Nat → FileSystem) (n : Nat) :
    related (after files outer n) (after files inner n) := by
  induction n with
  | zero => exact start
  | succ n ih => exact h.next ih (files n)

theorem Simulates.answer {related : Cached σ → Cached σ → Prop} (h : Simulates related)
    {outer inner : Cached σ} (start : related outer inner) (files : Nat → FileSystem) (n : Nat) :
    answer files outer n = answer files inner n :=
  h.result (h.after start files n) (files n)

/-- A cache around another cache, which holds nothing or what that one holds. -/
inductive Doubles : Cached σ → Cached σ → Prop
  | empty (held : Option Key) (inner : Cached σ) :
      Doubles (cache none (cache held inner)) (cache held inner)
  | full (key : Key) (inner : Cached σ) :
      Doubles (cache (some key) (cache (some key) inner)) (cache (some key) inner)

theorem simulates_doubles : Simulates (Doubles (σ := σ)) where
  innermost := by
    intro outer inner h
    cases h <;> rfl
  result := by
    intro outer inner h fs
    cases h <;> rfl
  next := by
    intro outer inner h fs
    cases h with
    | full key inner => exact .full key inner
    | empty held inner =>
      cases held with
      | some key => exact .full key inner
      | none =>
        rw [read_cache_none, read_cache_none]
        cases (KeySource.read fs inner).result with
        | error fault => exact .empty none _
        | ok key => exact .full key _

/-- However many new caches are put around a cache, nothing comes out differently. -/
theorem wrapped_alike (files : Nat → FileSystem) (held : Option Key) (inner : Cached σ)
    (depth n : Nat) :
    answer files (wrapped (cache held inner) depth) n = answer files (cache held inner) n ∧
      (after files (wrapped (cache held inner) depth) n).innermost =
        (after files (cache held inner) n).innermost := by
  induction depth with
  | zero => exact ⟨rfl, rfl⟩
  | succ depth ih =>
    obtain ⟨held', inner', same⟩ := wrapped_eq_cache held inner depth
    rw [same] at ih
    have start : Doubles (wrapped (cache held inner) (depth + 1)) (cache held' inner') := by
      rw [wrapped, same]
      exact .empty held' inner'
    exact ⟨(simulates_doubles.answer start files n).trans ih.1,
      (simulates_doubles.innermost (simulates_doubles.after start files n)).trans ih.2⟩

theorem failsBefore_direct {files : Nat → FileSystem} {source : σ} {n : Nat}
    (failing : FailsBefore files source n) :
    FailsBefore files (direct ({ source } : Counted σ)) n := by
  intro i lt
  rw [answer_direct, Counted.answer_eq]
  exact failing i lt

theorem innermost_after_direct (files : Nat → FileSystem) (source : σ) (n : Nat) :
    (after files (direct ({ source } : Counted σ)) n).innermost =
      { source := after files source n, reads := n } := by
  rw [after_direct, Counted.after_eq]
  rfl

/-- A cache asks the source behind it until that first succeeds, and never again, whatever becomes
of the files. Until then its answers are those of the source, and from then on the first key. A
source that never succeeds is asked every time. Further caches around a cache change no answer, and
not how often the innermost source is asked. -/
theorem asks_until_first_success (files : Nat → FileSystem) (source : σ) :
    let counted : Cached (Counted σ) := direct { source }
    ((∀ n, FailsBefore files source n) ∨ ∃ k key, FirstSuccess files source k key) ∧
    (∀ k key, FirstSuccess files source k key →
      (∀ i < k, answer files counted.around i = answer files source i) ∧
      (∀ i, k ≤ i → answer files counted.around i = .ok key) ∧
      ∀ n, (after files counted.around n).innermost =
        { source := after files source (min n (k + 1)), reads := min n (k + 1) }) ∧
    ((∀ n, FailsBefore files source n) →
      ∀ n, answer files counted.around n = answer files source n ∧
        (after files counted.around n).innermost =
          { source := after files source n, reads := n }) ∧
    (∀ (held : Option Key) (inner : Cached (Counted σ)) (depth n : Nat),
      answer files (wrapped (cache held inner) depth) n = answer files (cache held inner) n ∧
      (after files (wrapped (cache held inner) depth) n).innermost =
        (after files (cache held inner) n).innermost) := by
  intro counted
  have same : ∀ i, answer files counted i = answer files source i := by
    intro i
    rw [answer_direct, Counted.answer_eq]
  refine ⟨fails_or_firstSuccess files source, ?_, ?_, wrapped_alike files⟩
  · intro k key first
    have first' : FirstSuccess files counted k key :=
      ⟨failsBefore_direct first.failing, (same k).trans first.succeeds⟩
    refine ⟨?_, fun i late => answer_around_of_success first' late, ?_⟩
    · intro i early
      rw [answer_around (first'.failing.mono (Nat.le_of_lt early)), same]
    · intro n
      rw [innermost_after_around first', innermost_after_direct]
  · intro failing n
    have failing' := failsBefore_direct (failing n)
    refine ⟨(answer_around failing').trans (same n), ?_⟩
    rw [after_around failing']
    exact innermost_after_direct files source n

/-- Files with a key file that is there for the second call only. -/
def passingKeyFile (key : Key) : Nat → FileSystem
  | 1 => { nodes := [(["k"], .file 0o600 key.toBytes)], working := [] }
  | _ => { nodes := [], working := [] }

/-- The key of a file that was there only once is given ever after. An empty stream never has a
key. -/
theorem asks_until_first_success_passing :
    let key : Key := ⟨Octets.replicate 32 7⟩
    let files := passingKeyFile key
    let keyFile : Cached (Counted BasicSource) := direct { source := .file "k" }
    let stream : Cached (Counted BasicSource) := direct { source := .stream [] }
    FirstSuccess files (BasicSource.file "k") 1 key ∧
      (∀ n, FailsBefore files (BasicSource.stream []) n) ∧
      answer files keyFile.around 5 = .ok key ∧
      (after files keyFile.around 6).innermost.reads = 2 ∧
      (after files stream.around 6).innermost.reads = 6 := by
  intro key files keyFile stream
  have first : FirstSuccess files (BasicSource.file "k") 1 key := by
    refine ⟨?_, rfl⟩
    intro i lt
    cases Nat.lt_one_iff.mp lt
    exact ⟨_, rfl⟩
  have empty : ∀ n, after files (BasicSource.stream []) n = .stream [] := by
    intro n
    induction n with
    | zero => rfl
    | succ n ih =>
      rw [after, ih]
      rfl
  have failing : ∀ n, FailsBefore files (BasicSource.stream []) n := by
    intro n i _
    refine ⟨Key.lengthFault 0, ?_⟩
    rw [answer, empty]
    rfl
  obtain ⟨-, succeeding, -, -⟩ := asks_until_first_success files (BasicSource.file "k")
  obtain ⟨-, -, never, -⟩ := asks_until_first_success files (BasicSource.stream [])
  obtain ⟨-, held, asked⟩ := succeeding 1 key first
  exact ⟨first, failing, held 5 (by decide), congrArg Counted.reads (asked 6),
    congrArg Counted.reads (never failing 6).2⟩

end Cached

end FileSeal
