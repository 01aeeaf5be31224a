import Kestrel.Storage.CarArchive
import Kestrel.Storage.CarText

/-!
# CAR archives round-trip

What a builder wrote is what a reader finds: the root, and every distinct block under its CID.
-/

namespace Kestrel.Car

open List Except Option CARBuilder CARReader Table Prod Nat

variable {Other : Type} {sha256 : Sha256} {cbor2 : Cbor2 Other} {codec : ℕ}
  {data rest cidBytes : List UInt8} {cid : String}

section Cids

def cidOf (sha256 : Sha256) (codec : ℕ) (data : List UInt8) : List UInt8 :=
  [UInt8.ofNat cidVersion1, UInt8.ofNat codec, UInt8.ofNat hashSha2256,
    UInt8.ofNat hashSha2256Length] ++ sha256.digest data

theorem cidBytesFromSha256_eq (small : codec < 128) {digest : List UInt8}
    (length : digest.length = hashSha2256Length) : cidBytesFromSha256 codec digest =
      .ok ([UInt8.ofNat cidVersion1, UInt8.ofNat codec, UInt8.ofNat hashSha2256,
        UInt8.ofNat hashSha2256Length] ++ digest) := by
  have hash : encodeVarint hashSha2256 = [UInt8.ofNat hashSha2256] :=
    encodeVarint_of_small (by decide)
  have long : encodeVarint hashSha2256Length = [UInt8.ofNat hashSha2256Length] :=
    encodeVarint_of_small (by decide)
  unfold cidBytesFromSha256 multihashFromSha256
  rw [if_neg (not_not.mpr length), hash, long, encodeVarint_of_small small]
  rfl

theorem buildCidBytes_eq (small : codec < 128) (data : List UInt8) :
    buildCidBytes sha256 codec data = .ok (cidOf sha256 codec data) :=
  cidBytesFromSha256_eq small (sha256.length_digest data)

theorem length_cidOf : (cidOf sha256 codec data).length = 36 := by
  unfold cidOf
  rw [length_append, sha256.length_digest]
  rfl

theorem decodeVarint_single {bytes more : List UInt8} {number offset : ℕ} (few : number < 128)
    (found : bytes.drop offset = UInt8.ofNat number :: more) :
    decodeVarint bytes offset = .ok (number, offset + 1) := by
  have encoded := encodeVarint_of_small few
  have split : bytes.drop offset = encodeVarint number ++ more := by
    rw [encoded]
    exact found
  have bounded : number < 2 ^ 70 := by omega
  have read := decodeVarint_encodeVarint split bounded
  rw [encoded] at read
  exact read

/-- **A CID is parsed off the front of its block.** -/
theorem parseCidFromBytes_cidOf (small : codec < 128) (rest : List UInt8) :
    parseCidFromBytes (cidOf sha256 codec data ++ rest) 0 =
      .ok (cidOf sha256 codec data, (cidOf sha256 codec data).length) := by
  have version : decodeVarint (cidOf sha256 codec data ++ rest) 0 = .ok (cidVersion1, 1) :=
    decodeVarint_single (by decide) rfl
  have codec' : decodeVarint (cidOf sha256 codec data ++ rest) 1 = .ok (codec, 2) :=
    decodeVarint_single small rfl
  have hash : decodeVarint (cidOf sha256 codec data ++ rest) 2 = .ok (hashSha2256, 3) :=
    decodeVarint_single (by decide) rfl
  have length : decodeVarint (cidOf sha256 codec data ++ rest) 3 = .ok (hashSha2256Length, 4) :=
    decodeVarint_single (by decide) rfl
  unfold parseCidFromBytes
  simp only [version, codec', hash, length, bind, Except.bind, pure, Except.pure, ne_eq,
    not_true_eq_false, if_false]
  have whole : 4 + hashSha2256Length = (cidOf sha256 codec data).length := length_cidOf.symm
  unfold slice
  rw [whole, drop_zero, Nat.sub_zero, take_left]

theorem verifyBlock_cidOf (small : codec < 128) :
    CARReader.verifyBlock sha256 (cidOf sha256 codec data) data = .ok true := by
  have version : decodeVarint (cidOf sha256 codec data) 0 = .ok (cidVersion1, 1) :=
    decodeVarint_single (by decide) rfl
  have codec' : decodeVarint (cidOf sha256 codec data) 1 = .ok (codec, 2) :=
    decodeVarint_single small rfl
  have hash : decodeVarint ((cidOf sha256 codec data).drop 2) 0 = .ok (hashSha2256, 1) :=
    decodeVarint_single (by decide) rfl
  have length : decodeVarint ((cidOf sha256 codec data).drop 2) 1 = .ok (hashSha2256Length, 2) :=
    decodeVarint_single (by decide) rfl
  have digest : slice ((cidOf sha256 codec data).drop 2) 2 (2 + hashSha2256Length) =
      sha256.digest data := by
    change (sha256.digest data).take hashSha2256Length = sha256.digest data
    exact take_of_length_le (le_of_eq (sha256.length_digest data))
  unfold verifyBlock verifyMultihash
  simp [version, codec', hash, length, digest, bind, Except.bind, pure, Except.pure, ne_eq,
    not_true_eq_false, decide_true]

end Cids

section Blocks

variable {blocks : List (List UInt8 × List UInt8)} {reader : CARReader}

/-- A block that a reader finds: its CID is parsed off its front, and its length is a varint. -/
structure Framed (block : List UInt8 × List UInt8) : Prop where
  parsed : parseCidFromBytes (block.1 ++ block.2) 0 = .ok (block.1, block.1.length)
  bounded : block.1.length + block.2.length < 2 ^ 70

theorem readBlocks_cons {before after : List UInt8} {block : List UInt8 × List UInt8}
    (framed : Framed block) :
    readBlocks (before ++ (blockBytes block ++ after)) before.length reader =
      readBlocks (before ++ (blockBytes block ++ after))
        (before ++ blockBytes block).length (reader.keepBlock block.1 block.2) := by
  generalize whole_eq : before ++ (blockBytes block ++ after) = whole
  have front : whole.drop before.length = encodeVarint (block.1.length + block.2.length) ++
      (block.1 ++ block.2 ++ after) := by
    rw [← whole_eq, drop_left]
    unfold blockBytes carBlockPrefix
    simp only [append_assoc]
  have decoded := decodeVarint_encodeVarint front framed.bounded
  have content : slice whole
      (before.length + (encodeVarint (block.1.length + block.2.length)).length)
      (before.length + (encodeVarint (block.1.length + block.2.length)).length +
        (block.1.length + block.2.length)) = block.1 ++ block.2 := by
    unfold slice
    rw [← drop_drop, front, drop_left, Nat.add_sub_cancel_left, ← length_append, take_left]
  have finish : before.length + (encodeVarint (block.1.length + block.2.length)).length +
      (block.1.length + block.2.length) = (before ++ blockBytes block).length := by
    unfold blockBytes carBlockPrefix
    simp only [length_append]
    omega
  have inside : before.length < whole.length := by
    have advances := decodeVarint_lt decoded
    rw [← whole_eq, ← append_assoc, length_append, ← finish]
    omega
  rw [readBlocks, dif_pos inside]
  split
  · rename_i error failed
    rw [decoded] at failed
    cases failed
  · rename_i blockLength start read
    rw [decoded] at read
    cases read
    dsimp only
    rw [content, framed.parsed, finish]
    dsimp only
    rw [drop_left]

/-- **A reader finds the blocks that follow.** -/
theorem readBlocks_flatMap {before : List UInt8} (framed : ∀ block ∈ blocks, Framed block) :
    readBlocks (before ++ blocks.flatMap blockBytes) before.length reader =
      .ok (blocks.foldl (fun reader block => reader.keepBlock block.1 block.2) reader) := by
  induction blocks generalizing before reader with
  | nil =>
    rw [flatMap_nil, append_nil, readBlocks, dif_neg (lt_irrefl _)]
    rfl
  | cons block blocks ih =>
    rw [flatMap_cons, readBlocks_cons (framed block mem_cons_self),
      ← append_assoc, ih (fun block member => framed block (mem_cons_of_mem _ member)),
      foldl_cons]

end Blocks

section Calls

inductive Call (Other : Type) where
  | addRawBlock (data : List UInt8)
  | addDagCborBlock (object : Value Other)
  | addExternalRef (externalCid refType : String)
  | setRoot (cid : String)

namespace CARBuilder

def perform (sha256 : Sha256) (cbor2 : Cbor2 Other) (builder : CARBuilder) :
    Call Other → Except CarError CARBuilder
  | .addRawBlock data => (builder.addRawBlock sha256 data).map Prod.fst
  | .addDagCborBlock object => (builder.addDagCborBlock sha256 cbor2 object).map Prod.fst
  | .addExternalRef externalCid refType =>
    (builder.addExternalRef sha256 cbor2 externalCid refType).map Prod.fst
  | .setRoot cid => builder.setRoot cid

def call (sha256 : Sha256) (cbor2 : Cbor2 Other) (builder : CARBuilder) (call : Call Other) :
    CARBuilder :=
  match builder.perform sha256 cbor2 call with
  | .ok after => after
  | .error _ => builder

def run (sha256 : Sha256) (cbor2 : Cbor2 Other) (calls : List (Call Other)) : CARBuilder :=
  calls.foldl (CARBuilder.call sha256 cbor2) .empty

end CARBuilder

def Call.added (cbor2 : Cbor2 Other) : Call Other → Option (ℕ × List UInt8)
  | .addRawBlock data => some (codecRaw, data)
  | .addDagCborBlock object => (cbor2.dumps object).toOption.map fun data => (codecDagCbor, data)
  | .addExternalRef externalCid refType =>
    (CARBuilder.externalLink externalCid refType >>= cbor2.dumps).toOption.map fun data =>
      (codecDagCbor, data)
  | .setRoot _ => none

/-- The blocks that some calls add. -/
def added (cbor2 : Cbor2 Other) (calls : List (Call Other)) : List (ℕ × List UInt8) :=
  calls.filterMap (Call.added cbor2)

def cidText (sha256 : Sha256) (block : ℕ × List UInt8) : String :=
  cidBytesToString (cidOf sha256 block.1 block.2)

def rootAfter (sha256 : Sha256) (blocks : List (ℕ × List UInt8)) (root : Option String) :
    Call Other → Option String
  | .setRoot cid => if cid ∈ blocks.map (cidText sha256) then some cid else root
  | .addRawBlock _ | .addDagCborBlock _ | .addExternalRef _ _ => root

def rootSetFrom (sha256 : Sha256) (cbor2 : Cbor2 Other) (blocks : List (ℕ × List UInt8))
    (root : Option String) : List (Call Other) → Option String
  | [] => root
  | call :: calls =>
    rootSetFrom sha256 cbor2 (blocks ++ (call.added cbor2).toList)
      (rootAfter sha256 blocks root call) calls

def rootSet (sha256 : Sha256) (cbor2 : Cbor2 Other) (calls : List (Call Other)) : Option String :=
  rootSetFrom sha256 cbor2 [] none calls

structure Built (sha256 : Sha256) (blocks : List (ℕ × List UInt8)) (root : Option String)
    (builder : CARBuilder) : Prop where
  codecs : ∀ block ∈ blocks, block.1 < 128
  indexed : ∀ cid, builder.cidIndex.row cid ≠ none ↔ cid ∈ blocks.map (cidText sha256)
  given : ∀ entry ∈ builder.blocks, ∃ block ∈ blocks, entry = (cidOf sha256 block.1 block.2, block.2)
  held : ∀ block ∈ blocks, cidOf sha256 block.1 block.2 ∈ builder.blocks.map Prod.fst
  nodup : (builder.blocks.map Prod.fst).Nodup
  root_text : builder.rootCidBytes.map cidBytesToString = root
  root_added : ∀ cid, root = some cid → cid ∈ blocks.map (cidText sha256)

variable {blocks : List (ℕ × List UInt8)} {root : Option String} {builder after : CARBuilder}

theorem Built.empty : Built sha256 [] none .empty where
  codecs := fun _ member => by cases member
  indexed := fun cid => iff_of_false (fun present => present rfl) (fun member => by cases member)
  given := fun _ member => by cases member
  held := fun _ member => by cases member
  nodup := nodup_nil
  root_text := rfl
  root_added := fun _ set => by cases set

/-- Adding a block keeps it once. -/
theorem Built.addBlock {cid : String} (built : Built sha256 blocks root builder)
    (small : codec < 128) (performed : builder.addBlock sha256 codec data = .ok (after, cid)) :
    Built sha256 (blocks ++ [(codec, data)]) root after := by
  unfold CARBuilder.addBlock at performed
  rw [buildCidBytes_eq small data] at performed
  change (if (builder.cidIndex.row (cidText sha256 (codec, data))).isNone then _ else _) = _
    at performed
  have codecs : ∀ block ∈ blocks ++ [(codec, data)], block.1 < 128 := by
    intro block member
    rcases mem_append.mp member with member | member
    · exact built.codecs block member
    · rw [mem_singleton.mp member]
      exact small
  have root_added : ∀ cid, root = some cid → cid ∈ (blocks ++ [(codec, data)]).map (cidText sha256) := by
    intro cid set
    rw [map_append]
    exact mem_append_left _ (built.root_added cid set)
  have given : ∀ entry ∈ builder.blocks,
      ∃ block ∈ blocks ++ [(codec, data)], entry = (cidOf sha256 block.1 block.2, block.2) := by
    intro entry member
    obtain ⟨block, member, same⟩ := built.given entry member
    exact ⟨block, mem_append_left _ member, same⟩
  by_cases fresh : (builder.cidIndex.row (cidText sha256 (codec, data))).isNone = true
  · rw [if_pos fresh] at performed
    cases performed
    rw [isNone_iff_eq_none] at fresh
    have unheld : cidOf sha256 codec data ∉ builder.blocks.map fst := by
      intro member
      obtain ⟨entry, entry_mem, same⟩ := mem_map.mp member
      obtain ⟨block, block_mem, rfl⟩ := built.given entry entry_mem
      refine (built.indexed (cidText sha256 (codec, data))).mpr ?_ fresh
      refine mem_map.mpr ⟨block, block_mem, ?_⟩
      exact congrArg cidBytesToString same
    refine ⟨codecs, ?_, ?_, ?_, ?_, built.root_text, root_added⟩
    · intro cid
      rw [row_insert, map_append, mem_append, map_singleton, mem_singleton]
      split_ifs with same
      · exact iff_of_true (some_ne_none _) (.inr same)
      · rw [built.indexed cid]
        exact ⟨.inl, fun found => found.resolve_right same⟩
    · intro entry member
      rcases mem_append.mp member with member | member
      · exact given entry member
      · exact ⟨(codec, data), mem_append_right _ (mem_singleton_self _), mem_singleton.mp member⟩
    · intro block member
      rw [map_append]
      rcases mem_append.mp member with member | member
      · exact mem_append_left _ (built.held block member)
      · rw [mem_singleton.mp member]
        exact mem_append_right _ (mem_singleton_self _)
    · rw [map_append, nodup_append]
      refine ⟨built.nodup, nodup_singleton _, ?_⟩
      intro first member second single same
      rw [mem_singleton.mp single] at same
      rw [same] at member
      exact unheld member
  · rw [if_neg fresh] at performed
    cases performed
    have present : cidText sha256 (codec, data) ∈ blocks.map (cidText sha256) := by
      refine (built.indexed _).mp ?_
      intro absent
      exact fresh (isNone_iff_eq_none.mpr absent)
    refine ⟨codecs, ?_, given, ?_, built.nodup, built.root_text, root_added⟩
    · intro cid
      rw [map_append, mem_append, map_singleton, mem_singleton, built.indexed cid]
      refine ⟨.inl, ?_⟩
      rintro (member | rfl)
      · exact member
      · exact present
    · intro block member
      rcases mem_append.mp member with member | member
      · exact built.held block member
      · rw [mem_singleton.mp member]
        obtain ⟨other, member, same⟩ := mem_map.mp present
        have equal : cidOf sha256 other.1 other.2 = cidOf sha256 codec data :=
          cidBytesToString_injective same
        exact equal ▸ built.held other member

theorem addBlock_total (builder : CARBuilder) (small : codec < 128) (data : List UInt8) :
    ∃ after cid, builder.addBlock sha256 codec data = .ok (after, cid) := by
  unfold addBlock
  rw [buildCidBytes_eq small data]
  simp only [bind, Except.bind, pure, pure]
  split_ifs
  all_goals exact ⟨_, _, rfl⟩

theorem call_of_ok {call : Call Other} (performed : builder.perform sha256 cbor2 call = .ok after) :
    builder.call sha256 cbor2 call = after := by
  unfold CARBuilder.call
  rw [performed]

theorem call_of_error {call : Call Other} {error : CarError}
    (failed : builder.perform sha256 cbor2 call = .error error) :
    builder.call sha256 cbor2 call = builder := by
  unfold CARBuilder.call
  rw [failed]

theorem Built.encoded {call : Call Other} {encoded : Except CarError (List UInt8)}
    (built : Built sha256 blocks root builder) (small : codec < 128)
    (performs : builder.perform sha256 cbor2 call =
      (encoded >>= fun data => builder.addBlock sha256 codec data).map fst)
    (adds : call.added cbor2 = encoded.toOption.map fun data => (codec, data)) :
    Built sha256 (blocks ++ (call.added cbor2).toList) root (builder.call sha256 cbor2 call) := by
  cases encoded with
  | error error =>
    rw [call_of_error performs, adds]
    change Built sha256 (blocks ++ []) root builder
    rw [append_nil]
    exact built
  | ok data =>
    obtain ⟨after, cid, performed⟩ := @addBlock_total sha256 codec builder small data
    have succeeds : builder.perform sha256 cbor2 call = .ok after := by
      rw [performs]
      change (builder.addBlock sha256 codec data).map fst = _
      rw [performed]
      rfl
    rw [call_of_ok succeeds, adds]
    exact built.addBlock small performed

theorem Built.setRoot {cid : String} (built : Built sha256 blocks root builder) :
    Built sha256 blocks (if cid ∈ blocks.map (cidText sha256) then some cid else root)
      (builder.call sha256 cbor2 (.setRoot cid)) := by
  by_cases held : cid ∈ blocks.map (cidText sha256)
  · obtain ⟨block, member, rfl⟩ := mem_map.mp held
    have present := (built.indexed _).mpr held
    have succeeds : builder.perform sha256 cbor2 (.setRoot (cidText sha256 block)) =
        .ok { builder with rootCidBytes := some (cidOf sha256 block.1 block.2) } := by
      change builder.setRoot _ = _
      unfold CARBuilder.setRoot
      rw [if_neg (fun absent => present (isNone_iff_eq_none.mp absent))]
      unfold cidText
      rw [cidStringToBytes_cidBytesToString]
      rfl
    rw [if_pos held, call_of_ok succeeds]
    refine ⟨built.codecs, built.indexed, built.given, built.held, built.nodup, rfl, ?_⟩
    intro cid set
    cases set
    exact held
  · have failed : builder.perform sha256 cbor2 (.setRoot cid) =
        .error (.value ("CID not found in builder: " ++ cid)) := by
      change builder.setRoot cid = _
      unfold CARBuilder.setRoot
      rw [if_pos]
      rw [isNone_iff_eq_none]
      by_contra present
      exact held ((built.indexed cid).mp present)
    rw [if_neg held, call_of_error failed]
    exact built

/-- **A builder holds what a call added and the root it set.** -/
theorem Built.call (built : Built sha256 blocks root builder) (call : Call Other) :
    Built sha256 (blocks ++ (call.added cbor2).toList) (rootAfter sha256 blocks root call)
      (builder.call sha256 cbor2 call) := by
  cases call with
  | addRawBlock data =>
    have performs : builder.perform sha256 cbor2 (.addRawBlock data) =
        ((.ok data : Except CarError (List UInt8)) >>= fun data =>
          builder.addBlock sha256 codecRaw data).map fst := rfl
    exact built.encoded (by decide) performs rfl
  | addDagCborBlock object =>
    have performs : builder.perform sha256 cbor2 (.addDagCborBlock object) =
        (cbor2.dumps object >>= fun data =>
          builder.addBlock sha256 codecDagCbor data).map fst := rfl
    exact built.encoded (by decide) performs rfl
  | addExternalRef externalCid refType =>
    have performs : builder.perform sha256 cbor2 (.addExternalRef externalCid refType) =
        ((externalLink externalCid refType >>= cbor2.dumps) >>= fun data =>
          builder.addBlock sha256 codecDagCbor data).map fst := by
      change (externalLink externalCid refType >>= fun link =>
        cbor2.dumps link >>= fun data => builder.addBlock sha256 codecDagCbor data).map _ = _
      cases externalLink externalCid refType with
      | error error | ok link => rfl
    exact built.encoded (by decide) performs rfl
  | setRoot cid =>
    change Built sha256 (blocks ++ []) _ _
    rw [append_nil]
    exact built.setRoot

/-- **A builder holds what the calls added and the last root they set.** -/
theorem built_run (calls : List (Call Other)) :
    Built sha256 (added cbor2 calls) (rootSet sha256 cbor2 calls)
      (run sha256 cbor2 calls) := by
  have each : ∀ (calls : List (Call Other)) blocks root builder, Built sha256 blocks root builder →
      Built sha256 (blocks ++ added cbor2 calls) (rootSetFrom sha256 cbor2 blocks root calls)
        (calls.foldl (call sha256 cbor2) builder) := by
    intro calls
    induction calls with
    | nil =>
      intro blocks root builder built
      change Built sha256 (blocks ++ []) root builder
      rw [append_nil]
      exact built
    | cons call calls ih =>
      intro blocks root builder built
      have later := ih _ _ _ (@Built.call _ sha256 cbor2 _ _ _ built call)
      have split : blocks ++ added cbor2 (call :: calls) =
          blocks ++ (call.added cbor2).toList ++ added cbor2 calls := by
        unfold added
        rw [filterMap_cons, append_assoc]
        cases call.added cbor2 with
        | none | some block => rfl
      rw [split]
      exact later
  exact each calls [] none .empty .empty

end Calls

section Reading

variable {entries : List (List UInt8 × List UInt8)} {reader : CARReader}

theorem keepBlocks_row (nodup : (entries.map fst).Nodup) (cid : String) :
    let kept := entries.foldl (fun reader block => reader.keepBlock block.1 block.2) reader
    kept.rootCid = reader.rootCid ∧
      (∀ entry ∈ entries, kept.blocks.row (cidBytesToString entry.1) = some entry.2 ∧
        kept.cidBytesMap.row (cidBytesToString entry.1) = some entry.1) ∧
      (cid ∉ entries.map (cidBytesToString ·.1) → kept.blocks.row cid = reader.blocks.row cid ∧
          kept.cidBytesMap.row cid = reader.cidBytesMap.row cid) := by
  induction entries generalizing reader cid with
  | nil =>
    refine ⟨rfl, ?_, fun _ => ⟨rfl, rfl⟩⟩
    intro entry member
    cases member
  | cons entry entries ih =>
    rw [map_cons, nodup_cons] at nodup
    have later := @ih (reader.keepBlock entry.1 entry.2) nodup.2
    refine ⟨(later cid).1, ?_, ?_⟩
    · intro other member
      rcases mem_cons.mp member with rfl | member
      · have unlisted : cidBytesToString other.1 ∉ entries.map (cidBytesToString ·.1) := by
          intro listed
          obtain ⟨entry, entry_mem, same⟩ := mem_map.mp listed
          refine nodup.1 (mem_map.mpr ⟨entry, entry_mem, ?_⟩)
          exact cidBytesToString_injective same
        obtain ⟨blocks, cids⟩ := (later (cidBytesToString other.1)).2.2 unlisted
        refine ⟨blocks.trans ?_, cids.trans ?_⟩
        all_goals exact row_insert_self _ _ _
      · exact (later cid).2.1 other member
    · intro unlisted
      rw [map_cons, mem_cons, not_or] at unlisted
      obtain ⟨blocks, cids⟩ := (later cid).2.2 unlisted.2
      refine ⟨blocks.trans ?_, cids.trans ?_⟩
      all_goals exact row_insert_of_ne _ _ unlisted.1

theorem verifyBlocks_eq_true {rows : List (String × List UInt8)} :
    reader.verifyBlocks sha256 rows = .ok true ↔ ∀ row ∈ rows, ∃ cidBytes,
      reader.cidBytesMap.row row.1 = some cidBytes ∧
        verifyBlock sha256 cidBytes row.2 = .ok true := by
  induction rows with
  | nil => exact iff_of_true rfl (fun _ member => by cases member)
  | cons row rows ih =>
    obtain ⟨cid, data⟩ := row
    rw [forall_mem_cons, verifyBlocks]
    cases stored : reader.cidBytesMap.row cid with
    | none =>
      refine iff_of_false (fun verified => by cases verified) ?_
      intro found
      obtain ⟨⟨_, impossible, _⟩, _⟩ := found
      cases impossible
    | some cidBytes =>
      rw [bind_eq_ok]
      constructor
      · intro found
        obtain ⟨verified, block, rest⟩ := found
        cases verified with
        | false => cases rest
        | true => exact ⟨⟨cidBytes, rfl, block⟩, ih.mp rest⟩
      · intro found
        obtain ⟨⟨cidBytes', same, block⟩, rest⟩ := found
        cases same
        exact ⟨true, block, ih.mpr rest⟩

theorem headerRoot_headerObject (root : List UInt8) :
    headerRoot cbor2 (headerObject root) = .ok root := by
  have version : get [((.text "roots" : Value Other), .array [makeCidLink root]),
      (.text "version", .integer 1)] "version" = some (.integer 1) := by
    unfold get Value.equalsText
    rw [find?_cons_of_neg (by simp), find?_cons_of_pos (by simp)]
    rfl
  have roots : get [((.text "roots" : Value Other), .array [makeCidLink root]),
      (.text "version", .integer 1)] "roots" = some (.array [makeCidLink root]) := by
    unfold get Value.equalsText
    rw [find?_cons_of_pos (by simp)]
    rfl
  unfold headerRoot headerObject
  dsimp only
  have named : (some (Value.integer 1 : Value Other)).any (·.equalsInteger cbor2 1) = true := rfl
  rw [version, roots, if_pos named]
  rfl

/-- What `cbor2` promises of the header of a root. -/
def Exact (cbor2 : Cbor2 Other) (root : List UInt8) : Prop :=
  ∃ bytes, cbor2.dumps (headerObject root) = .ok bytes ∧
    cbor2.loads bytes = .ok (headerObject root) ∧ bytes.length < 2 ^ 63

theorem parse_header {root : List UInt8} (exact_header : Exact cbor2 root) (blocks : List UInt8) :
    ∃ header, carHeader cbor2 root = .ok header ∧ CARReader.parse cbor2 (header ++ blocks) =
        CARReader.readBlocks (header ++ blocks) header.length
          ⟨.empty, .empty, cidBytesToString root⟩ := by
  obtain ⟨bytes, dumped, loaded, bounded⟩ := exact_header
  refine ⟨encodeVarint bytes.length ++ bytes, ?_, ?_⟩
  · unfold carHeader
    rw [dumped]
    rfl
  · have front : (encodeVarint bytes.length ++ bytes ++ blocks).drop 0 =
        encodeVarint bytes.length ++ (bytes ++ blocks) := by
      rw [drop_zero, append_assoc]
    have decoded := decodeVarint_encodeVarint front (by omega)
    have content : slice (encodeVarint bytes.length ++ bytes ++ blocks)
        (0 + (encodeVarint bytes.length).length)
        (0 + (encodeVarint bytes.length).length + bytes.length) = bytes := by
      unfold slice
      rw [Nat.add_sub_cancel_left, Nat.zero_add, append_assoc, drop_left, take_left]
    unfold parse
    rw [decoded]
    simp only [bind, Except.bind, content, loaded, headerRoot_headerObject]
    rw [zero_add, length_append]

variable {blocks : List (ℕ × List UInt8)}

theorem cidOf_injective {block block' : ℕ × List UInt8}
    (free : sha256.CollisionFree {data | data ∈ blocks.map snd}) (member : block ∈ blocks)
    (member' : block' ∈ blocks)
    (same : cidOf sha256 block.1 block.2 = cidOf sha256 block'.1 block'.2)
    : block.2 = block'.2 := by
  have digests := congrArg (drop 4) same
  exact free (mem_map_of_mem member) (mem_map_of_mem member') digests

theorem Built.kept_row {root : Option String} {builder : CARBuilder} (reader : CARReader)
    (built : Built sha256 blocks root builder)
    (free : sha256.CollisionFree {data | data ∈ blocks.map snd})
    (empty : ∀ cid, reader.blocks.row cid = none ∧ reader.cidBytesMap.row cid = none) (cid : String)
    (data : List UInt8) :
    let kept := builder.blocks.foldl (fun reader block => reader.keepBlock block.1 block.2) reader
    (kept.blocks.row cid = some data ↔
        ∃ block ∈ blocks, cid = cidText sha256 block ∧ data = block.2) ∧
      ∀ block ∈ blocks, cid = cidText sha256 block →
        kept.cidBytesMap.row cid = some (cidOf sha256 block.1 block.2) := by
  have entered : ∀ block ∈ blocks, (cidOf sha256 block.1 block.2, block.2) ∈ builder.blocks := by
    intro block member
    obtain ⟨entry, entry_mem, same⟩ := mem_map.mp (built.held block member)
    obtain ⟨other, other_mem, given⟩ := built.given entry entry_mem
    subst given
    have data := cidOf_injective free other_mem member same
    dsimp only at same
    rw [same, data] at entry_mem
    exact entry_mem
  obtain ⟨_, listed, unlisted⟩ := @keepBlocks_row builder.blocks reader built.nodup cid
  refine ⟨⟨?_, ?_⟩, ?_⟩
  · intro stored
    by_cases present : cid ∈ builder.blocks.map (cidBytesToString ·.1)
    · obtain ⟨entry, entry_mem, rfl⟩ := mem_map.mp present
      obtain ⟨block, member, given⟩ := built.given entry entry_mem
      have held := (listed entry entry_mem).1
      rw [stored] at held
      subst given
      exact ⟨block, member, rfl, Option.some.inj held⟩
    · have absent := (unlisted present).1.trans (empty cid).1
      rw [stored] at absent
      cases absent
  · intro given
    obtain ⟨block, member, rfl, rfl⟩ := given
    exact (listed _ (entered block member)).1
  · intro block member text
    subst text
    exact (listed _ (entered block member)).2

/-- **A reader finds the root and the distinct blocks of a builder**, and verifies them. -/
theorem build_read {builder : CARBuilder} {cid : String}
    (built : Built sha256 blocks (some cid) builder)
    (free : sha256.CollisionFree {data | data ∈ blocks.map snd})
    (bounded : ∀ block ∈ blocks, block.2.length < 2 ^ 63)
    (exact_header : ∀ root, cidStringToBytes cid = .ok root → Exact cbor2 root) :
    ∃ carBytes reader, builder.build cbor2 = .ok carBytes ∧
      parse cbor2 carBytes = .ok reader ∧ reader.rootCid = cid ∧
      (∀ cid data, reader.getBlock cid = some data ↔
        ∃ block ∈ blocks, cid = cidText sha256 block ∧ data = block.2) ∧
      reader.verify sha256 = .ok true := by
  obtain ⟨root, set, rfl⟩ : ∃ root, builder.rootCidBytes = some root ∧
      cidBytesToString root = cid := map_eq_some_iff.mp built.root_text
  obtain ⟨header, written, parsed⟩ := parse_header
    (exact_header root (cidStringToBytes_cidBytesToString root))
    (builder.blocks.flatMap blockBytes)
  have framed : ∀ entry ∈ builder.blocks, Framed entry := by
    intro entry member
    obtain ⟨block, block_mem, rfl⟩ := built.given entry member
    refine ⟨parseCidFromBytes_cidOf (built.codecs block block_mem) _, ?_⟩
    dsimp only
    have length := bounded block block_mem
    rw [length_cidOf]
    omega
  have nonempty : builder.blocks ≠ [] := by
    intro empty
    obtain ⟨block, member, _⟩ := mem_map.mp (built.root_added _ rfl)
    have held := built.held block member
    rw [empty] at held
    cases held
  have found := Built.kept_row ⟨.empty, .empty, cidBytesToString root⟩ built free
    (fun _ => ⟨rfl, rfl⟩)
  refine ⟨header ++ builder.blocks.flatMap blockBytes, _, ?_,
    parsed.trans (readBlocks_flatMap framed), ?_, fun cid data => (found cid data).1, ?_⟩
  · unfold build
    rw [set]
    dsimp only
    rw [if_neg nonempty, written]
    rfl
  · exact (keepBlocks_row built.nodup "").1
  · refine verifyBlocks_eq_true.mpr ?_
    intro row member
    have stored := mem_rows.mp member
    obtain ⟨block, block_mem, text, same⟩ := (found row.1 row.2).1.mp stored
    refine ⟨cidOf sha256 block.1 block.2, ?_, ?_⟩
    · rw [text]
      exact (found _ block.2).2 block block_mem rfl
    · rw [same]
      exact verifyBlock_cidOf (built.codecs block block_mem)

end Reading

section Verification

/-- Some data hash to a CID: its varints name its version, a codec and SHA-256, and the rest is the
digest of the data. -/
def HashesTo (sha256 : Sha256) (cidBytes data : List UInt8) : Prop :=
  ∃ codec first second third fourth, decodeVarint cidBytes 0 = .ok (cidVersion1, first) ∧
    decodeVarint cidBytes first = .ok (codec, second) ∧
    decodeVarint cidBytes second = .ok (hashSha2256, third) ∧
    decodeVarint cidBytes third = .ok (hashSha2256Length, fourth) ∧
    cidBytes.drop fourth = sha256.digest data

/-- Every block of a reader is under the text of a CID that was parsed. -/
def Parsed (reader : CARReader) : Prop :=
  ∀ cid data, reader.blocks.row cid = some data → ∃ cidBytes block cidEnd,
    reader.cidBytesMap.row cid = some cidBytes ∧ cid = cidBytesToString cidBytes ∧
      parseCidFromBytes block 0 = .ok (cidBytes, cidEnd)

variable {reader : CARReader} {block carBytes : List UInt8} {cidEnd offset : ℕ}

theorem Parsed.keepBlock (parsed : Parsed reader)
    (parse : parseCidFromBytes block 0 = .ok (cidBytes, cidEnd)) (data : List UInt8)
    : Parsed (reader.keepBlock cidBytes data) := by
  intro cid kept stored
  by_cases same : cid = cidBytesToString cidBytes
  · subst same
    exact ⟨cidBytes, block, cidEnd, row_insert_self _ _ _, rfl, parse⟩
  · change (insert _ _ _).row cid = some kept at stored
    rw [row_insert_of_ne _ _ same] at stored
    obtain ⟨cidBytes', block', cidEnd', held, text, parse'⟩ := parsed cid kept stored
    exact ⟨cidBytes', block', cidEnd', (row_insert_of_ne _ _ same).trans held, text, parse'⟩

theorem Parsed.readBlocks {after : CARReader} (parsed : Parsed reader)
    (read : readBlocks carBytes offset reader = .ok after) :
    Parsed after := by
  induction remaining : carBytes.length - offset using Nat.strong_induction_on
    generalizing offset reader with
  | h size ih =>
    rw [readBlocks] at read
    split at read
    · rename_i inside
      split at read
      · cases read
      · rename_i blockLength start decoded
        dsimp only at read
        split at read
        · cases read
        · rename_i cidBytes cidEnd parse
          have advances := decodeVarint_lt decoded
          exact ih _ (by omega) (parsed.keepBlock parse _) read rfl
    · cases read
      exact parsed

theorem decodeVarint_of_drop {bytes : List UInt8} {dropped value next : ℕ}
    (decoded : decodeVarint (bytes.drop dropped) offset = .ok (value, next)) :
    decodeVarint bytes (dropped + offset) = .ok (value, dropped + next) := by
  rw [decodeVarint_drop, decoded]
  rfl

theorem verifyBlock_eq_true (verified : verifyBlock sha256 cidBytes data = .ok true) :
    ∃ version codec first second third fourth, decodeVarint cidBytes 0 = .ok (version, first) ∧
      decodeVarint cidBytes first = .ok (codec, second) ∧
      decodeVarint cidBytes second = .ok (hashSha2256, third) ∧
      decodeVarint cidBytes third = .ok (hashSha2256Length, fourth) ∧
      slice cidBytes fourth (fourth + hashSha2256Length) = sha256.digest data := by
  unfold verifyBlock verifyMultihash at verified
  obtain ⟨⟨version, first⟩, readVersion, verified⟩ := bind_eq_ok.mp verified
  obtain ⟨⟨codec, second⟩, readCodec, verified⟩ := bind_eq_ok.mp verified
  obtain ⟨⟨hashCode, third⟩, readHash, verified⟩ := bind_eq_ok.mp verified
  dsimp only at verified readCodec readHash
  split_ifs at verified with other
  obtain ⟨⟨digestLength, fourth⟩, readLength, verified⟩ := bind_eq_ok.mp verified
  split_ifs at verified with short
  rw [not_not] at other short
  subst other
  subst short
  have readHash' := decodeVarint_of_drop readHash
  have readLength' := decodeVarint_of_drop readLength
  refine ⟨version, codec, first, second, second + third, second + fourth, readVersion, readCodec,
    readHash', readLength', ?_⟩
  have same := of_decide_eq_true (ok.inj verified)
  rw [← same]
  unfold slice
  rw [drop_drop, Nat.add_sub_cancel_left, Nat.add_sub_cancel_left]

/-- **Verified data hash to the CID that was parsed.** -/
theorem hashesTo_of_verifyBlock (parse : parseCidFromBytes block 0 = .ok (cidBytes, cidEnd))
    (verified : verifyBlock sha256 cidBytes data = .ok true) :
    HashesTo sha256 cidBytes data := by
  unfold parseCidFromBytes at parse
  obtain ⟨⟨version, first⟩, readVersion, parse⟩ := bind_eq_ok.mp parse
  dsimp only at parse
  split_ifs at parse with unsupported
  obtain ⟨⟨codec, second⟩, readCodec, parse⟩ := bind_eq_ok.mp parse
  obtain ⟨⟨hashCode, third⟩, readHash, parse⟩ := bind_eq_ok.mp parse
  obtain ⟨⟨digestLength, fourth⟩, readLength, parse⟩ := bind_eq_ok.mp parse
  rw [not_not] at unsupported
  subst unsupported
  have cut : cidBytes = block.take (fourth + digestLength) := by
    cases parse
    unfold slice
    rw [drop_zero, Nat.sub_zero]
  have codec_lt := decodeVarint_lt readCodec
  have hash_lt := decodeVarint_lt readHash
  have length_lt := decodeVarint_lt readLength
  -- The bytes of the CID are read as those of the block, so the digest is as long as it says.
  have within : fourth ≤ fourth + digestLength := le_add_right _ _
  have readLength' := (decodeVarint_take readLength within).1
  have within : third ≤ fourth + digestLength := by omega
  have readHash' := (decodeVarint_take readHash within).1
  have within : second ≤ fourth + digestLength := by omega
  have readCodec' := (decodeVarint_take readCodec within).1
  have within : first ≤ fourth + digestLength := by omega
  have readVersion' := (decodeVarint_take readVersion within).1
  rw [← cut] at readVersion' readCodec' readHash' readLength'
  obtain ⟨_, _, _, _, _, _, again, againCodec, againHash, againLength, digest⟩ :=
    verifyBlock_eq_true verified
  rw [readVersion'] at again
  cases again
  rw [readCodec'] at againCodec
  cases againCodec
  rw [readHash'] at againHash
  cases againHash
  rw [readLength'] at againLength
  cases againLength
  refine ⟨codec, first, second, third, fourth, readVersion', readCodec', readHash', readLength', ?_⟩
  rw [← digest]
  unfold slice
  rw [Nat.add_sub_cancel_left, take_of_length_le]
  rw [cut, length_drop, length_take]
  omega

/-- **What a reader lists hashes to its CID**, where the reader verifies it. -/
theorem hashesTo_of_verify (parsed : parse cbor2 carBytes = .ok reader)
    (verified : reader.verify sha256 = .ok true) {cid : String}
    (listed : reader.getBlock cid = some data) :
    ∃ cidBytes, cid = cidBytesToString cidBytes ∧ HashesTo sha256 cidBytes data := by
  have kept : Parsed reader := by
    unfold parse at parsed
    simp only [bind_eq_ok] at parsed
    obtain ⟨_, _, _, _, _, _, read⟩ := parsed
    refine Parsed.readBlocks ?_ read
    intro cid data stored
    cases stored
  obtain ⟨cidBytes, block, cidEnd, held, text, parse⟩ := kept cid data listed
  obtain ⟨cidBytes', same, block⟩ :=
    verifyBlocks_eq_true.mp verified (cid, data) (mem_rows.mpr listed)
  rw [held] at same
  cases same
  exact ⟨cidBytes, text, hashesTo_of_verifyBlock parse block⟩

end Verification

section RoundTrip

theorem eq_singleton_of_nodup {Entry Key : Type} {key : Entry → Key} {entries : List Entry}
    {entry : Entry} (nodup : (entries.map key).Nodup) (nonempty : entries ≠ [])
    (same : ∀ other ∈ entries, other = entry) : entries = [entry] := by
  obtain ⟨length, rfl⟩ : ∃ length, entries = replicate length entry :=
    ⟨entries.length, eq_replicate_iff.mpr ⟨rfl, same⟩⟩
  rw [map_replicate, nodup_replicate] at nodup
  have positive : length ≠ 0 := fun zero => nonempty (by rw [zero]; rfl)
  have one : length = 1 := by omega
  rw [one]
  rfl

/-- **An archive of one raw block is its prefix and its data.** -/
theorem build_eq_singleRawBlockCarPrefix {blocks : List (ℕ × List UInt8)} {builder : CARBuilder}
    (built : Built sha256 blocks (some cid) builder)
    (single : ∀ block ∈ blocks, block = (codecRaw, data)) :
    builder.build cbor2 = (singleRawBlockCarPrefix cbor2 (sha256.digest data) data.length).map
          (fun written => written.1 ++ data) ∧
      cid = cidText sha256 (codecRaw, data) := by
  obtain ⟨block, block_mem, text⟩ := mem_map.mp (built.root_added cid rfl)
  rw [single block block_mem] at text block_mem
  obtain ⟨root, set, root_text⟩ : ∃ root, builder.rootCidBytes = some root ∧
      cidBytesToString root = cid := map_eq_some_iff.mp built.root_text
  have named : root = cidOf sha256 codecRaw data :=
    cidBytesToString_injective (root_text.trans text.symm)
  have one : builder.blocks = [(cidOf sha256 codecRaw data, data)] := by
    refine eq_singleton_of_nodup built.nodup ?_ ?_
    · intro empty
      have held := built.held _ block_mem
      rw [empty] at held
      cases held
    · intro entry member
      obtain ⟨block, member', rfl⟩ := built.given entry member
      rw [single block member']
  refine ⟨?_, text.symm⟩
  have written : cidBytesFromSha256 codecRaw (sha256.digest data) =
      .ok (cidOf sha256 codecRaw data) := buildCidBytes_eq (by decide) data
  unfold build singleRawBlockCarPrefix
  rw [set, written, one, named]
  dsimp only
  rw [if_neg (cons_ne_nil _ _)]
  simp only [bind, Except.bind]
  cases carHeader cbor2 (cidOf sha256 codecRaw data) with
  | error error => rfl
  | ok header =>
    change Except.ok (header ++ ([_] : List _).flatMap blockBytes) =
      Except.ok (header ++ carBlockPrefix _ _ ++ data)
    rw [flatMap_singleton, blockBytes, append_assoc]

/-- **CAR archives round-trip.** A reader of what a builder wrote finds the last root that was set
and the distinct blocks under their CIDs, and verifies them. An archive of one raw block is what is
streamed for it. Whatever a reader verifies hashes to its CID. -/
theorem archives_round_trip (sha256 : Sha256) (cbor2 : Cbor2 Other) :
    (∀ calls cid, rootSet sha256 cbor2 calls = some cid →
      sha256.CollisionFree {data | data ∈ (added cbor2 calls).map Prod.snd} →
      (∀ block ∈ added cbor2 calls, block.2.length < 2 ^ 63) →
      (∀ root, cidStringToBytes cid = .ok root → Exact cbor2 root) →
      ∃ carBytes reader, (CARBuilder.run sha256 cbor2 calls).build cbor2 = .ok carBytes ∧
        CARReader.parse cbor2 carBytes = .ok reader ∧ reader.rootCid = cid ∧
        (∀ cid, cid ∈ reader.listCids ↔ cid ∈ (added cbor2 calls).map (cidText sha256)) ∧
        (∀ cid data, reader.getBlock cid = some data ↔
          ∃ block ∈ added cbor2 calls, cid = cidText sha256 block ∧ data = block.2) ∧
        reader.verify sha256 = .ok true) ∧
    (∀ calls cid data, rootSet sha256 cbor2 calls = some cid →
      (∀ block ∈ added cbor2 calls, block = (codecRaw, data)) →
      (CARBuilder.run sha256 cbor2 calls).build cbor2 =
          (singleRawBlockCarPrefix cbor2 (sha256.digest data) data.length).map
            (fun written => written.1 ++ data) ∧
        cid = cidText sha256 (codecRaw, data)) ∧
    (∀ carBytes reader, CARReader.parse cbor2 carBytes = .ok reader →
      reader.verify sha256 = .ok true →
      ∀ cid ∈ reader.listCids, ∃ cidBytes data, reader.getBlock cid = some data ∧
        cid = cidBytesToString cidBytes ∧ HashesTo sha256 cidBytes data) ∧
    (∀ n < 2 ^ 63, ∀ before after : List UInt8,
      decodeVarint (before ++ encodeVarint n ++ after) before.length =
        .ok (n, before.length + (encodeVarint n).length)) ∧
    ∀ cidBytes, cidStringToBytes (cidBytesToString cidBytes) = .ok cidBytes := by
  refine ⟨?_, ?_, ?_, ?_, cidStringToBytes_cidBytesToString⟩
  · intro calls cid set free bounded exact_header
    have built := @built_run _ sha256 cbor2 calls
    rw [set] at built
    obtain ⟨carBytes, reader, written, parsed, root, found, verified⟩ :=
      build_read built free bounded exact_header
    refine ⟨carBytes, reader, written, parsed, root, ?_, found, verified⟩
    intro cid
    unfold listCids
    rw [reader.blocks.mem_keys, List.mem_map, Option.ne_none_iff_exists']
    constructor
    · intro listed
      obtain ⟨data, stored⟩ := listed
      obtain ⟨block, member, text, _⟩ := (found cid data).mp stored
      exact ⟨block, member, text.symm⟩
    · intro given
      obtain ⟨block, member, text⟩ := given
      exact ⟨block.2, (found cid block.2).mpr ⟨block, member, text.symm, rfl⟩⟩
  · intro calls cid data set single
    have built := @built_run _ sha256 cbor2 calls
    rw [set] at built
    exact build_eq_singleRawBlockCarPrefix built single
  · intro carBytes reader parsed verified cid listed
    obtain ⟨data, stored⟩ := Option.ne_none_iff_exists'.mp ((reader.blocks.mem_keys cid).mp listed)
    obtain ⟨cidBytes, text, hashes⟩ := hashesTo_of_verify parsed verified stored
    exact ⟨cidBytes, data, stored, text, hashes⟩
  · intro n bounded before after
    have found : (before ++ encodeVarint n ++ after).drop before.length =
        encodeVarint n ++ after := by rw [List.append_assoc, List.drop_left]
    exact decodeVarint_encodeVarint found (by omega)

/-- The header of a root of 36 bytes, as `cbor2` encodes it. -/
def headerBytes (root : List UInt8) : List UInt8 :=
  [0xA2, 0x65, 0x72, 0x6F, 0x6F, 0x74, 0x73, 0x81, 0xD8, 0x2A, 0x58, 0x25, 0x00] ++ root ++
    [0x67, 0x76, 0x65, 0x72, 0x73, 0x69, 0x6F, 0x6E, 0x01]

/-- `cbor2` on the headers of such roots. -/
def headersOnly : Cbor2 Empty where
  dumps := fun object =>
    match object with
    | .map [(.text first, .array [.tag number (.bytes (front :: root))]),
        (.text second, .integer value)] =>
      if first = "roots" ∧ number = cborTagCid ∧ front = 0x00 ∧ root.length = 36 ∧
          second = "version" ∧ value = 1 then
        .ok (headerBytes root)
      else .error .encode
    | _ => .error .encode
  loads := fun bytes =>
    if bytes = headerBytes ((bytes.drop 13).take 36) then
      .ok (headerObject ((bytes.drop 13).take 36))
    else .error .decode
  equalsInteger := Empty.elim
  isFalse := Empty.elim

theorem exact_headersOnly {root : List UInt8} (length : root.length = 36) :
    Exact headersOnly root := by
  have cut : ((headerBytes root).drop 13).take 36 = root := by
    change (root ++ [0x67, 0x76, 0x65, 0x72, 0x73, 0x69, 0x6F, 0x6E, 0x01]).take 36 = root
    rw [← length, take_left]
  refine ⟨headerBytes root, ?_, ?_, ?_⟩
  · change (if _ then _ else _) = _
    rw [if_pos ⟨rfl, rfl, rfl, length, rfl, rfl⟩]
  · change (if _ then _ else _) = _
    rw [cut, if_pos rfl]
  · unfold headerBytes
    rw [length_append, length_append, length]
    decide

def smallCalls : List (Call Empty) :=
  [.addRawBlock [0x61], .addRawBlock [], .addRawBlock [0x61],
    .setRoot (cidText .standard (codecRaw, [0x61]))]

theorem smallCalls_round_trip :
    ∃ carBytes reader, (CARBuilder.run .standard headersOnly smallCalls).build headersOnly =
        .ok carBytes ∧
      CARReader.parse headersOnly carBytes = .ok reader ∧
      reader.rootCid = cidText .standard (codecRaw, [0x61]) ∧
      reader.getBlock (cidText .standard (codecRaw, [])) = some [] ∧
      reader.verify .standard = .ok true := by
  have blocks : added headersOnly smallCalls =
      [(codecRaw, [0x61]), (codecRaw, []), (codecRaw, [0x61])] := rfl
  have set : rootSet .standard headersOnly smallCalls =
      some (cidText .standard (codecRaw, [0x61])) := by
    have last : rootSet .standard headersOnly smallCalls =
        rootAfter .standard [(codecRaw, [0x61]), (codecRaw, []), (codecRaw, [0x61])] none
          (.setRoot (cidText .standard (codecRaw, [0x61])) : Call Empty) := rfl
    rw [last]
    unfold rootAfter
    dsimp only
    rw [map_cons, if_pos mem_cons_self]
  obtain ⟨carBytes, reader, written, parsed, root, _, found, verified⟩ :=
    (archives_round_trip .standard headersOnly).1 smallCalls _ set
      (Sha256.collisionFree_of_nodup (by decide +kernel)) (by decide)
      (fun root same => by
        have parts : root = cidOf .standard codecRaw [0x61] :=
          (ok.inj ((cidStringToBytes_cidBytesToString _).symm.trans same)).symm
        rw [parts]
        exact exact_headersOnly length_cidOf)
  refine ⟨carBytes, reader, written, parsed, root, (found _ _).mpr ?_, verified⟩
  rw [blocks]
  exact ⟨(codecRaw, []), mem_cons_of_mem _ mem_cons_self, rfl, rfl⟩

end RoundTrip

end Kestrel.Car
