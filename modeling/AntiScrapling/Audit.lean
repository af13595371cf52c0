import AntiScrapling.Decision
import AntiScrapling.RingBuffer

/-! The ring of recent decisions behind `/admin/audit` (`internal/observability/audit.go`).
Both methods hold the lock throughout, so a run is a list of recorded entries. -/
namespace AntiScrapling
namespace Audit

open RingBuffer

/-- Times are nanoseconds.  Only a zero value has no verdict. -/
structure AuditEntry where
  timestamp : ℤ
  requestID : String
  ip : String
  url : String
  verdict : Option Verdict
  score : ℤ
  signals : List Signal
  reasons : List String
  deriving DecidableEq, Repr

/-- The zero value that `make` fills the buffer with. -/
def zeroEntry : AuditEntry := ⟨0,"","","",none,0,[],[]⟩

structure Ring where
  buf : List AuditEntry
  size : ℕ
  head : ℕ
  count : ℕ
  buf_length : buf.length = size
  size_pos : 0 < size
  head_lt : head < size

def defaultSize : ℕ := 10000

/-- The number of places; a size that is not positive means the default. -/
def ringSize (size : ℤ) : ℕ := if size ≤ 0 then defaultSize else size.toNat

theorem ringSize_pos (size : ℤ) : 0 < ringSize size := by
  unfold ringSize
  split_ifs
  · decide
  · omega

def newAudit (size : ℤ) : Ring where
  buf := List.replicate (ringSize size) zeroEntry
  size := ringSize size
  head := 0
  count := 0
  buf_length := List.length_replicate
  size_pos := ringSize_pos size
  head_lt := ringSize_pos size

namespace Ring

def record (a : Ring) (entry : AuditEntry) : Ring where
  buf := a.buf.set a.head entry
  size := a.size
  head := (a.head+1)%a.size
  count := if a.count < a.size then a.count+1 else a.count
  buf_length := by rw [List.length_set,a.buf_length]
  size_pos := a.size_pos
  head_lt := Nat.mod_lt _ a.size_pos

/-- `a.buf[i%a.size]`. -/
def cell (a : Ring) (i : ℕ) : AuditEntry :=
  a.buf.get ⟨i%a.size,by rw [a.buf_length]; exact Nat.mod_lt _ a.size_pos⟩

/-- The entries that are not before `t`, oldest first. -/
def since (a : Ring) (t : ℤ) : List AuditEntry :=
  if a.count = 0 then []
  else
    let start := if a.count = a.size then a.head else 0
    ((List.range a.count).map fun i => a.cell (start+i)).filter fun e => !decide (e.timestamp < t)

end Ring

def run (size : ℤ) (entries : List AuditEntry) : Ring := entries.foldl Ring.record (newAudit size)

/-- Head and count follow the number of entries, and the buffer holds the last ones. -/
structure Follows (a : Ring) (entries : List AuditEntry) : Prop where
  head : a.head = entries.length%a.size
  count : a.count = min entries.length a.size
  holds : Holds a.buf entries

theorem Follows.record {a : Ring} {entries : List AuditEntry} (h : Follows a entries)
    (entry : AuditEntry) : Follows (a.record entry) (entries++[entry]) := by
  have hlen : (entries++[entry]).length = entries.length+1 := by simp
  refine ⟨?_,?_,?_⟩
  · show (a.head+1)%a.size = _
    rw [h.head,hlen,Nat.mod_add_mod]
    rfl
  · show (if a.count < a.size then a.count+1 else a.count) = _
    rw [h.count,hlen]
    show _ = min (entries.length+1) a.size
    split_ifs <;> omega
  · have hpos : 0 < a.buf.length := by rw [a.buf_length]; exact a.size_pos
    have hwrite := h.holds.write hpos entry
    rw [a.buf_length,← h.head] at hwrite
    exact hwrite

theorem run_follows (size : ℤ) (entries : List AuditEntry) : Follows (run size entries) entries := by
  induction entries using List.reverseRecOn with
  | nil => exact ⟨by simp [run,newAudit],by simp [run,newAudit],holds_nil _⟩
  | append_singleton entries entry ih =>
    have hrun : run size (entries++[entry]) = (run size entries).record entry := by simp [run]
    rw [hrun]
    exact ih.record entry

theorem run_size (size : ℤ) (entries : List AuditEntry) : (run size entries).size = ringSize size := by
  induction entries using List.reverseRecOn with
  | nil => rfl
  | append_singleton entries entry ih =>
    have hrun : run size (entries++[entry]) = (run size entries).record entry := by simp [run]
    rw [hrun]
    exact ih

/-- What the loop of `Since` looks at. -/
theorem Follows.cells {a : Ring} {entries : List AuditEntry} (h : Follows a entries) :
    ((List.range a.count).map fun i => a.cell ((if a.count = a.size then a.head else 0)+i)) =
      entries.rtake a.count := by
  have hcount : RingBuffer.count a.buf entries = a.count := by
    rw [RingBuffer.count,a.buf_length,h.count]
  have hstart : RingBuffer.start a.buf entries = if a.count = a.size then a.head else 0 := by
    have hcount' := h.count
    rw [RingBuffer.start,a.buf_length,← h.head]
    by_cases hfull : a.size ≤ entries.length
    · rw [if_pos hfull,if_pos (by omega)]
    · rw [if_neg hfull,if_neg (by omega)]
  apply List.ext_getElem?
  intro i
  by_cases hi : i < a.count
  · have hread := h.holds.read (i:=i) (by omega)
    rw [hcount,hstart,a.buf_length] at hread
    rw [← hread,List.getElem?_map,List.getElem?_range hi,Option.map_some]
    exact (List.getElem?_eq_getElem _).symm
  · have hshort : (entries.rtake a.count).length ≤ i := by
      have hcount' := h.count
      rw [List.rtake,List.length_drop]
      omega
    rw [List.getElem?_eq_none hshort,List.getElem?_eq_none]
    rw [List.length_map,List.length_range]
    omega

theorem since_eq (size : ℤ) (entries : List AuditEntry) (t : ℤ) :
    (run size entries).since t =
      (entries.rtake (min entries.length (ringSize size))).filter fun e => t ≤ e.timestamp := by
  have hfollows := run_follows size entries
  have hcount := hfollows.count
  rw [run_size] at hcount
  have hkeep : (fun e : AuditEntry => !decide (e.timestamp < t)) = fun e => decide (t ≤ e.timestamp) := by
    funext e
    rw [Bool.eq_iff_iff]
    simp
  unfold Ring.since
  simp only
  rw [hfollows.cells,hkeep,hcount]
  by_cases hempty : min entries.length (ringSize size) = 0
  · rw [if_pos hempty,hempty]
    simp
  · rw [if_neg hempty]

/-- `Since` gives the entries that are not before `t` among the last ones that fit, in the
order in which they were recorded. -/
theorem since_run {size : ℤ} (hsize : 1 ≤ size) (entries : List AuditEntry) (t : ℤ) :
    (run size entries).since t =
      (entries.rtake (min entries.length size.toNat)).filter fun e => t ≤ e.timestamp := by
  rw [since_eq,ringSize,if_neg (by omega)]

/-- Three entries in a ring of two, the last one with the earliest time. -/
def sampleEntries : List AuditEntry :=
  [⟨5,"r-5","192.0.2.1","/",some .allow,0,[],[]⟩,⟨9,"r-9","192.0.2.1","/",some .deny,90,[],[]⟩,
    ⟨7,"r-7","192.0.2.2","/a",some .challenge,60,[],[]⟩]

theorem since_run_sample :
    (run 2 sampleEntries).since 6 = sampleEntries.drop 1 := by
  rw [since_run (by decide)]
  rfl

end Audit
end AntiScrapling
