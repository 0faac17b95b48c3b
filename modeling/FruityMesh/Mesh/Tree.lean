import FruityMesh.Mesh.Net

/-!
# Trees of handshaken links

The meshes in which all handshakes are done.  `chain` is one of them: each node is the
central of the next one.
-/

namespace FruityMesh.Mesh

open SimpleGraph Ports

variable {V : Type*} [DecidableEq V]

/-- The nodes form a tree, and both ends of each link have done the handshake. -/
structure HandshakenTree (net : Net V) : Prop where
  wired : Wired net.peer
  tree : (graph net.peer).IsTree
  isConnected : ∀ v i, net.peer v i ≠ none → (net.connection v i).isConnected = true
  handshakeDone : ∀ v i, net.peer v i ≠ none → (net.connection v i).handshakeDone = true

/-! ## A chain -/

/-- The first outgoing connection. -/
def outConnection : Slot := ⟨1, one_lt_meshMaxConnections⟩

/-- The first outgoing connection of each node leads to the next node. -/
def chainPeer (n : ℕ) : Links (Fin n) Slot := fun v i =>
  if i = outConnection then
    if h : v.val + 1 < n then some (⟨v.val + 1, h⟩, inConnection) else none
  else if i = inConnection then
    if 0 < v.val then some (⟨v.val - 1, by omega⟩, outConnection) else none
  else none

theorem chainPeer_eq {n : ℕ} {v u : Fin n} {i j : Slot} :
    chainPeer n v i = some (u, j) ↔
      (i = outConnection ∧ j = inConnection ∧ u.val = v.val + 1) ∨
        (i = inConnection ∧ j = outConnection ∧ v.val = u.val + 1) := by
  have hports : outConnection ≠ inConnection := by decide
  unfold chainPeer
  split_ifs with hi hlast hin hfirst <;> simp_all [Fin.ext_iff] <;> omega

theorem chainPeer_wired (n : ℕ) : Wired (chainPeer n) where
  twoWay := by
    intro v i u j h
    rw [chainPeer_eq] at h ⊢
    tauto
  loopless := by
    rintro v i u j h rfl
    rw [chainPeer_eq] at h
    omega
  single := by
    intro v i i' u j j' h h'
    rw [chainPeer_eq] at h h'
    rcases h with ⟨rfl, _, h⟩ | ⟨rfl, _, h⟩ <;> rcases h' with ⟨rfl, _, h'⟩ | ⟨rfl, _, h'⟩
    · rfl
    · omega
    · omega
    · rfl

theorem chainPeer_isTree (n : ℕ) : (graph (chainPeer (n + 1))).IsTree := by
  apply Forest.isTree_of_parent 0 (fun v => ⟨v.val - 1, by omega⟩) Fin.val
  · intro v hv
    have : v.val ≠ 0 := fun h => hv (Fin.ext h)
    simp only
    omega
  · intro v u
    rw [(chainPeer_wired (n + 1)).adj_iff]
    simp only [chainPeer_eq, Fin.ext_iff, Fin.val_zero, ne_eq]
    constructor
    · rintro ⟨i, j, h⟩
      omega
    · rintro (⟨hv, hu⟩ | ⟨hu, hv⟩)
      · exact ⟨inConnection, outConnection, Or.inr ⟨rfl, rfl, by omega⟩⟩
      · exact ⟨outConnection, inConnection, Or.inl ⟨rfl, rfl, by omega⟩⟩

/-- Nodes that are far apart in the numbering are far apart in the chain. -/
theorem chain_le_dist (n : ℕ) (v u : Fin (n + 1)) :
    u.val ≤ v.val + (graph (chainPeer (n + 1))).dist v u := by
  have hwalk : ∀ {v u : Fin (n + 1)} (p : (graph (chainPeer (n + 1))).Walk v u),
      u.val ≤ v.val + p.length := by
    intro v u p
    induction p with
    | nil => exact Nat.le_refl _
    | cons hadj p ih =>
        obtain ⟨i, j, h⟩ := (chainPeer_wired (n + 1)).adj_iff.mp hadj
        rw [chainPeer_eq] at h
        rw [Walk.length_cons]
        omega
  obtain ⟨p, hp⟩ := (chainPeer_isTree n).connected.exists_walk_length_eq_dist v u
  rw [← hp]
  exact hwalk p

/-- A connection of a node in a chain after all handshakes. -/
def chainConnection (n : ℕ) (nodeId : Fin n → NodeId) (v : Fin n) (i : Slot) : Connection :=
  match chainPeer n v i with
  | none => ⟨false, false, 0, 0, 0, -1, 0⟩
  | some (u, _) =>
      ⟨true, true, nodeId u, 1, if i = outConnection then BitVec.ofNat 16 (n - 1 - v) else
        BitVec.ofNat 16 v, -1, 14⟩

def chainNode (n : ℕ) (nodeId : Fin n → NodeId) (v : Fin n) : Node where
  nodeId := nodeId v
  deviceType := .static
  meshWriteHandle := 14
  connectionLossCounter := 0
  clusterId := 1
  clusterSize := BitVec.ofNat 16 n
  inFeignHandshakeMode := false
  connections := chainConnection n nodeId v

/-- Nodes in a chain, with nothing on its way. -/
def chain (n : ℕ) (nodeId : Fin n → NodeId) : Net (Fin n) where
  node := chainNode n nodeId
  peer := chainPeer n
  inbox := fun _ _ => []
  closing := fun _ _ => false
  received := fun _ => []

theorem chain_handshakenTree (n : ℕ) (nodeId : Fin (n + 1) → NodeId) :
    HandshakenTree (chain (n + 1) nodeId) where
  wired := chainPeer_wired (n + 1)
  tree := chainPeer_isTree n
  isConnected := by
    intro v i hpeer
    obtain ⟨p, hp⟩ := Option.ne_none_iff_exists'.mp hpeer
    have hp' : chainPeer (n + 1) v i = some p := hp
    simp [Net.connection, chain, chainNode, chainConnection, hp']
  handshakeDone := by
    intro v i hpeer
    obtain ⟨p, hp⟩ := Option.ne_none_iff_exists'.mp hpeer
    have hp' : chainPeer (n + 1) v i = some p := hp
    simp [Net.connection, chain, chainNode, chainConnection, hp']

/-- The nodes are numbered from one on. -/
def numbered (n : ℕ) (v : Fin n) : NodeId := BitVec.ofNat 16 (v + 1)

end FruityMesh.Mesh
