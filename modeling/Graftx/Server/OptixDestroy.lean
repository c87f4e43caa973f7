import Graftx.Server.Optix
import Graftx.Server.History

/-! What the shared `DESTROY` opcode of OptiX removes. A context handle and a pipeline
handle may agree in slot and generation, and then the pipeline goes. -/
namespace Graftx.Server
open Graftx.Protocol Graftx.Handles

def destroyInput (h : Handle) (t : Bytes) : Input :=
  (OptixOp.destroy, (Optix.DestroyRequest.mk h).encode ++ t)

/-- Destroying `h` is accepted and takes away the object `h` names in family `f` and
nothing else: every other handle of either family resolves to what it did. -/
structure RemovesExactly (b : OptixBackend) (f : OptixFamily) (h : Handle) (t : Bytes) : Prop where
  accepted : (step b (destroyInput h t)).1 = .ok []
  gone : ((step b (destroyInput h t)).2.table f).get h = none
  others : ∀ g h', ¬ (g = f ∧ h'.key = h.key) →
    ((step b (destroyInput h t)).2.table g).get h' = (b.table g).get h'

theorem step_destroyInput (b : OptixBackend) (h : Handle) (t : Bytes) :
    step b (destroyInput h t) = destroy b OptixOp.destroy (b.destroyed h) h := by
  have hd := Optix.DestroyRequest.decode_exact.decode_encode ⟨h⟩ t trivial
  have hr : request OptixBackend OptixOp.destroy ((Optix.DestroyRequest.mk h).encode ++ t) =
      .ok (.destroy ⟨h⟩) := by
    rw [request, if_neg (by decide)]
    change OptixRequest.decode _ _ = _
    rw [OptixRequest.decode, if_neg (by decide), if_neg (by decide), if_pos rfl, hd]
    rfl
  exact (handle_of_request_ok b _ _ _ hr).trans (b.exec_destroy _ _)

theorem removesExactly_of_destroyed (b : OptixBackend) (f : OptixFamily) (h : Handle) (t : Bytes)
    (hf : b.destroyed h = f) (hl : (b.table f).isLive h) : RemovesExactly b f h t := by
  obtain ⟨v, hv⟩ := Option.isSome_iff_exists.mp hl
  have hstep : step b (destroyInput h t) =
      (.ok [], b.setTable f ((b.table f).release h.slot.toNat)) := by
    rw [step_destroyInput, hf, destroy, table_optix, (b.table f).remove_of_get_some h v hv]
    rfl
  refine ⟨by rw [hstep], ?_, ?_⟩
  · have ht : (b.setTable f ((b.table f).release h.slot.toNat)).table f = _ :=
      Tables.table_set_self b f _
    rw [hstep, ht, (b.table f).get_release h h v hv, if_pos rfl]
  · intro g h' hne
    rw [hstep]
    by_cases hg : g = f
    · have ht : (b.setTable f ((b.table f).release h.slot.toNat)).table f = _ :=
        Tables.table_set_self b f _
      rw [hg, ht, (b.table f).get_release h h' v hv, if_neg fun hk => hne ⟨hg, hk⟩]
    · have ht : (b.setTable f ((b.table f).release h.slot.toNat)).table g = b.table g :=
        Tables.table_set_ne b f _ g hg
      rw [ht]

/-- In every state reached, destroying a live handle the backend handed out removes
exactly its object if and only if it is a pipeline, or a context whose slot and generation
no live pipeline has. -/
theorem destroy_removes_exactly_iff (is : List Input) (f : OptixFamily) (h : Handle) (t : Bytes)
    (_issued : Issued (logOf OptixBackend is) f h)
    (hl : ((stateAfter OptixBackend is).table f).isLive h) :
    RemovesExactly (stateAfter OptixBackend is) f h t ↔
      f = .pipeline ∨ (stateAfter OptixBackend is).pipelines.get h = none := by
  generalize stateAfter OptixBackend is = b at hl ⊢
  cases hp : b.pipelines.get h with
  | none =>
    refine iff_of_true ?_ (.inr rfl)
    cases f with
    | context => exact removesExactly_of_destroyed b .context h t (b.destroyed_of_none h hp) hl
    | pipeline =>
      rw [HandleTable.isLive, OptixBackend.table, hp] at hl
      cases hl
  | some v =>
    have hd := b.destroyed_of_some h v hp
    cases f with
    | pipeline =>
      exact iff_of_true (removesExactly_of_destroyed b .pipeline h t hd hl) (.inl rfl)
    | context =>
      refine iff_of_false (fun hr => ?_) (by rintro (hf | hn) <;> contradiction)
      -- the pipeline under the same slot and generation is the object that goes
      have hlive : (b.table .pipeline).isLive h := by
        rw [HandleTable.isLive, OptixBackend.table, hp]
        rfl
      have hgone := (removesExactly_of_destroyed b .pipeline h t hd hlive).gone
      rw [hr.others .pipeline h (fun hk => by cases hk.1), OptixBackend.table, hp] at hgone
      cases hgone

def contextAndPipeline : List Input :=
  [(OptixOp.contextCreate, []),
    (OptixOp.pipelineCreate, (Optix.PipelineCreateRequest.mk (Handle.new 80 0 0)).encode)]

theorem destroy_removes_exactly_iff_pipeline :
    RemovesExactly (stateAfter OptixBackend contextAndPipeline) .pipeline (Handle.new 81 0 0) [] :=
  (destroy_removes_exactly_iff contextAndPipeline .pipeline (Handle.new 81 0 0) []
    (by decide +kernel) (by decide +kernel)).mpr (.inl rfl)

/-- Destroying the context removes the pipeline instead. -/
theorem destroy_of_context_removes_pipeline :
    ¬ ∀ (is : List Input) (f : OptixFamily) (h : Handle) (t : Bytes),
      Issued (logOf OptixBackend is) f h → ((stateAfter OptixBackend is).table f).isLive h →
      RemovesExactly (stateAfter OptixBackend is) f h t := by
  intro hall
  have hr := hall contextAndPipeline .context (Handle.new 80 0 0) []
    (by decide +kernel) (by decide +kernel)
  have hkept := hr.others .pipeline (Handle.new 81 0 0) (fun hk => by cases hk.1)
  have hwas : ((stateAfter OptixBackend contextAndPipeline).table .pipeline).isLive
      (Handle.new 81 0 0) = true := by decide +kernel
  have hgone : ((step (stateAfter OptixBackend contextAndPipeline)
      (destroyInput (Handle.new 80 0 0) [])).2.table .pipeline).isLive
      (Handle.new 81 0 0) = false := by decide +kernel
  rw [HandleTable.isLive, hkept, ← HandleTable.isLive, hwas] at hgone
  cases hgone

end Graftx.Server
