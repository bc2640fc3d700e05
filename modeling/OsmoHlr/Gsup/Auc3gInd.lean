import OsmoHlr.Gsup.Server
import Mathlib.Data.List.Pairwise

/-!
# The index of a connection for 3G sequence numbers

`osmo_gsup_server_add_conn` keeps the clients sorted by their index and puts a new
one into the first gap.  A list that is sorted stays so by that and by the removal
of any connection, so the indices tell the connections apart.

* `PutInGap` — where a connection goes, and with which index.
* `osmoGsupServerAddConn_putInGap` — that is what adding one to a sorted list does.
* `sortedByInd_run` — the list is sorted after any run of the two operations, and
  `sortedByInd_server` after anything that happens to the server.
-/

namespace OsmoHlr
namespace Gsup

open CniPeerId

variable {clients added : List Conn} {conn prevConn : Conn} {ind : Nat}

/-- The clients are in the order of their indices, no two of which are equal. -/
def SortedByInd (clients : List Conn) : Prop := clients.Pairwise fun a b => a.auc3gInd < b.auc3gInd

/-- Some client has the index. -/
def IndUsed (clients : List Conn) (ind : Nat) : Prop := ∃ c ∈ clients, c.auc3gInd = ind

instance : Decidable (SortedByInd clients) :=
  inferInstanceAs (Decidable (clients.Pairwise _))

instance : Decidable (IndUsed clients ind) :=
  inferInstanceAs (Decidable (∃ c ∈ clients, c.auc3gInd = ind))

/-- `conn` is put between the clients with smaller and with larger indices than its own, and from
`start` on no smaller index is free.  The others stay as they are. -/
structure PutInGap (start : Nat) (clients added : List Conn) (conn : Conn) (ind : Nat) : Prop where
  placed : ∃ front back, clients = front ++ back ∧
    added = front ++ { conn with auc3gInd := ind } :: back ∧
    (∀ c ∈ front, c.auc3gInd < ind) ∧ ∀ c ∈ back, ind < c.auc3gInd
  start_le : start ≤ ind
  least : ∀ k, start ≤ k → k < ind → IndUsed clients k

namespace PutInGap

variable {start : Nat}

/-- The index is free. -/
theorem not_indUsed (h : PutInGap start clients added conn ind) : ¬IndUsed clients ind := by
  obtain ⟨front, back, rfl, -, hfront, hback⟩ := h.placed
  rintro ⟨c, hc, hind⟩
  rcases List.mem_append.1 hc with hc | hc
  · exact absurd (hfront c hc) (by omega)
  · exact absurd (hback c hc) (by omega)

/-- One more client in front. -/
theorem cons (h : PutInGap (prevConn.auc3gInd + 1) clients added conn ind) :
    PutInGap prevConn.auc3gInd (prevConn :: clients) (prevConn :: added) conn ind where
  placed := by
    obtain ⟨front, back, rfl, rfl, hfront, hback⟩ := h.placed
    refine ⟨prevConn :: front, back, rfl, rfl, ?_, hback⟩
    intro c hc
    rcases List.mem_cons.1 hc with rfl | hc
    · exact h.start_le
    · exact hfront c hc
  start_le := Nat.le_of_succ_le h.start_le
  least := by
    intro k hk hlt
    rcases Nat.eq_or_lt_of_le hk with rfl | hk
    · exact ⟨prevConn, List.mem_cons_self, rfl⟩
    · obtain ⟨c, hc, hind⟩ := h.least k hk hlt
      exact ⟨c, List.mem_cons_of_mem _ hc, hind⟩

/-- The new connection does not break the order. -/
theorem sorted (h : PutInGap start clients added conn ind) (hsorted : SortedByInd clients) :
    SortedByInd added := by
  obtain ⟨front, back, rfl, rfl, hfront, hback⟩ := h.placed
  obtain ⟨hf, hb, hfb⟩ := List.pairwise_append.1 hsorted
  refine List.pairwise_append.2 ⟨hf, List.pairwise_cons.2 ⟨hback, hb⟩, ?_⟩
  intro a ha b hb
  rcases List.mem_cons.1 hb with rfl | hb
  · exact hfront a ha
  · exact hfb a ha b hb

/-- All indices below that of the new connection are in use, so there are at least so many
clients.  Each of these has a file descriptor, an `int`, so the index fits an `unsigned int`. -/
theorem ind_le_length (h : PutInGap 0 clients added conn ind) : ind ≤ clients.length := by
  have hsub : List.range ind ⊆ clients.map Conn.auc3gInd := by
    intro k hk
    obtain ⟨c, hc, hind⟩ := h.least k (Nat.zero_le k) (List.mem_range.1 hk)
    exact List.mem_map.2 ⟨c, hc, hind⟩
  have hle := (List.nodup_range (n := ind)).subperm hsub |>.length_le
  simpa using hle

end PutInGap

/-! ## What the operations do -/

/-- The gap behind the previous connection, if there is one. -/
theorem putInGap_of_gt (hgap : ∀ c ∈ clients, ind < c.auc3gInd) :
    PutInGap ind clients ({ conn with auc3gInd := ind } :: clients) conn ind where
  placed := ⟨[], clients, rfl, rfl, nofun, hgap⟩
  start_le := Nat.le_refl ind
  least := fun _ hk hlt => absurd hk (Nat.not_le.2 hlt)

/-- The search behind a connection finds the first free index above that of the connection. -/
theorem addConnBehind_putInGap (conn : Conn) (hsorted : SortedByInd (prevConn :: clients)) :
    ∃ ind, PutInGap prevConn.auc3gInd (prevConn :: clients) (addConnBehind conn prevConn clients)
      conn ind := by
  induction clients generalizing prevConn with
  | nil =>
      have hlarger : ∀ x ∈ ([] : List Conn), prevConn.auc3gInd + 1 < x.auc3gInd := nofun
      exact ⟨_, (putInGap_of_gt hlarger).cons⟩
  | cons c clients ih =>
      obtain ⟨hprev, htail⟩ := List.pairwise_cons.1 hsorted
      rw [addConnBehind]
      split
      next hgap =>
          -- the clients behind `c` have larger indices still
          have hlarger : ∀ x ∈ c :: clients, prevConn.auc3gInd + 1 < x.auc3gInd := by
            intro x hx
            rcases List.mem_cons.1 hx with rfl | hx
            · exact hgap
            · exact Nat.lt_trans hgap ((List.pairwise_cons.1 htail).1 x hx)
          exact ⟨_, (putInGap_of_gt hlarger).cons⟩
      next hgap =>
          have hnext : c.auc3gInd = prevConn.auc3gInd + 1 := by
            have := hprev c List.mem_cons_self
            omega
          obtain ⟨ind, hput⟩ := ih htail
          rw [hnext] at hput
          exact ⟨ind, hput.cons⟩

/-- **A new connection takes the first index that is free.** -/
theorem osmoGsupServerAddConn_putInGap (hsorted : SortedByInd clients) (conn : Conn) :
    ∃ ind, PutInGap 0 clients (osmoGsupServerAddConn clients conn) conn ind := by
  cases clients with
  | nil => exact ⟨0, putInGap_of_gt nofun⟩
  | cons c rest =>
      rw [osmoGsupServerAddConn]
      split
      next hfree =>
          have hlarger : ∀ x ∈ c :: rest, 0 < x.auc3gInd := by
            intro x hx
            rcases List.mem_cons.1 hx with rfl | hx
            · exact hfree
            · exact Nat.lt_trans hfree ((List.pairwise_cons.1 hsorted).1 x hx)
          exact ⟨0, putInGap_of_gt hlarger⟩
      next hzero =>
          obtain ⟨ind, hput⟩ := addConnBehind_putInGap conn hsorted
          rw [Nat.eq_zero_of_not_pos hzero] at hput
          exact ⟨ind, hput⟩

theorem SortedByInd.remove (hsorted : SortedByInd clients) (ref : Nat) :
    SortedByInd (Keyed.remove Conn.ref clients ref) :=
  List.Pairwise.sublist List.filter_sublist hsorted

/-! ## Runs of the two operations -/

/-- An operation on the list of clients. -/
inductive ClientsOp where
  /-- `osmo_gsup_server_add_conn`, of a record with anything in it. -/
  | addConn (conn : Conn)
  /-- The `llist_del` of `osmo_gsup_conn_free`. -/
  | delConn (ref : Nat)
  deriving DecidableEq

/-- What an operation makes of the list. -/
def ClientsOp.apply (clients : List Conn) : ClientsOp → List Conn
  | .addConn conn => osmoGsupServerAddConn clients conn
  | .delConn ref => Keyed.remove Conn.ref clients ref

/-- The list of clients after all operations, one after the other. -/
def runClients (ops : List ClientsOp) : List Conn := ops.foldl ClientsOp.apply []

theorem SortedByInd.apply (hsorted : SortedByInd clients) (op : ClientsOp) :
    SortedByInd (op.apply clients) := by
  cases op with
  | addConn conn =>
      obtain ⟨ind, hput⟩ := osmoGsupServerAddConn_putInGap hsorted conn
      exact hput.sorted hsorted
  | delConn ref => exact hsorted.remove ref

theorem sortedByInd_run (ops : List ClientsOp) : SortedByInd (runClients ops) := by
  have hfold : ∀ clients, SortedByInd clients →
      SortedByInd (ops.foldl ClientsOp.apply clients) := by
    induction ops with
    | nil => exact fun _ h => h
    | cons op ops ih => exact fun clients h => ih _ (h.apply op)
  exact hfold [] List.Pairwise.nil

/-- In a sorted list no two clients share an index. -/
theorem SortedByInd.nodup (hsorted : SortedByInd clients) :
    (clients.map Conn.auc3gInd).Nodup :=
  (List.pairwise_map.2 hsorted).imp fun h => Nat.ne_of_lt h

/-- **Whatever connections were added and removed, the clients are sorted by indices that are all
different; one more takes the smallest index that is free, and with that and with a removal the
others keep theirs.**  The index does not exceed the number of clients. -/
theorem auc3gInd_run (ops : List ClientsOp) :
    SortedByInd (runClients ops) ∧ ((runClients ops).map Conn.auc3gInd).Nodup ∧
      (∀ conn, ∃ ind front back, runClients ops = front ++ back ∧
        runClients (ops ++ [.addConn conn]) = front ++ { conn with auc3gInd := ind } :: back ∧
        ¬IndUsed (runClients ops) ind ∧ (∀ k < ind, IndUsed (runClients ops) k) ∧
        ind ≤ (runClients ops).length) ∧
      ∀ ref x, x ∈ runClients (ops ++ [.delConn ref]) ↔ x ∈ runClients ops ∧ x.ref ≠ ref := by
  have hsorted := sortedByInd_run ops
  have hlast : ∀ op, runClients (ops ++ [op]) = op.apply (runClients ops) := by
    intro op
    rw [runClients, List.foldl_concat]
    rfl
  refine ⟨hsorted, hsorted.nodup, ?_, ?_⟩
  · intro conn
    obtain ⟨ind, hput⟩ := osmoGsupServerAddConn_putInGap hsorted conn
    obtain ⟨front, back, hclients, hadded, -, -⟩ := hput.placed
    refine ⟨ind, front, back, hclients, ?_, hput.not_indUsed, ?_, hput.ind_le_length⟩
    · rw [hlast]
      exact hadded
    · exact fun k hk => hput.least k (Nat.zero_le k) hk
  · intro ref x
    rw [hlast]
    exact Keyed.mem_remove

/-! ## In the server -/

variable {server : GsupServer}

/-- What the server does with a connection other than to open and to close it leaves the indices
as they are. -/
theorem SortedByInd.setConn (hsorted : SortedByInd server.clients) (h : WellFormed server)
    (hconn : conn ∈ server.clients) {conn' : Conn} (href : conn'.ref = conn.ref)
    (hind : conn'.auc3gInd = conn.auc3gInd) : SortedByInd (server.setConn conn').clients := by
  have hmap := Keyed.map_set Conn.auc3gInd h.refs hconn href hind
  have hinds : (server.clients.map Conn.auc3gInd).Pairwise (· < ·) := List.pairwise_map.2 hsorted
  rw [← hmap] at hinds
  exact List.pairwise_map.1 hinds

theorem SortedByInd.ccm (hsorted : SortedByInd server.clients) (h : WellFormed server)
    (hconn : conn ∈ server.clients) (sernr : Option (List UInt8)) :
    SortedByInd (osmoGsupServerCcmCb server conn sernr).2.clients := by
  unfold osmoGsupServerCcmCb
  split
  next => exact hsorted.setConn h hconn rfl rfl
  next addr =>
      split
      next => exact hsorted.setConn h hconn rfl rfl
      next => exact hsorted.setConn h hconn (conn.ref_setPeerName addr) rfl

theorem SortedByInd.rx (hsorted : SortedByInd server.clients) (lib : GsupLib) (conn : Conn)
    (l2 : List UInt8) : SortedByInd (osmoGsupConnRx lib server conn l2).server.clients := by
  rcases osmoGsupConnRx_cases lib server conn l2 with
    ⟨hs, -⟩ | ⟨_, _, -, -, ⟨-, hs, -⟩ | ⟨-, -, hs, -⟩⟩
  · rw [hs]
    exact hsorted
  · rw [hs]
    exact hsorted
  · rw [hs]
    exact hsorted

theorem SortedByInd.step (hsorted : SortedByInd server.clients) (h : WellFormed server)
    (lib : GsupLib) (action : Action) : SortedByInd (step lib server action).1.clients := by
  cases action with
  | accept =>
      obtain ⟨ind, hput⟩ := osmoGsupServerAddConn_putInGap hsorted
        ⟨server.accepted, none, 0, IpaName.zero⟩
      exact hput.sorted hsorted
  | ccm ref sernr =>
      simp only [Gsup.step]
      split
      next => exact hsorted
      next hl => exact hsorted.ccm h (h.lookup_eq_some_iff.1 hl).1 sernr
  | rx ref l2 =>
      simp only [Gsup.step]
      split
      next => exact hsorted
      next conn hl => exact hsorted.rx lib conn l2
  | closed ref =>
      simp only [Gsup.step]
      split
      next => exact hsorted
      next conn hl => exact hsorted.remove conn.ref

/-- **The clients of the server are sorted by their indices whatever happens to it.** -/
theorem sortedByInd_server (lib : GsupLib) (actions : List Action) :
    SortedByInd ((machine lib).run GsupServer.create actions).1.clients := by
  have hinv := (machine lib).run_invariant
    (P := fun server => WellFormed server ∧ SortedByInd server.clients)
    (fun _ action h => ⟨h.1.step lib action, h.2.step h.1 lib action⟩)
    ⟨wellFormed_create, List.Pairwise.nil⟩ actions
  exact hinv.2

end Gsup
end OsmoHlr
