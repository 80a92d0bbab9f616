import KvsProducer.Sink

/-! Requesting and releasing the pads of a kvssink, and the counters and the
media type that are kept beside the collect list. -/
namespace KvsProducer
open Gst

inductive PadTemplate where
  | audio | video | other
  deriving DecidableEq, Repr

/-- The media type a request leaves behind, from the two counters. -/
def requestedMediaType (numVideoStreams numAudioStreams : UInt32) : MediaType :=
  if numVideoStreams > 0 && numAudioStreams > 0 then .audioVideo
  else if numVideoStreams > 0 then .videoOnly
  else .audioOnly

/-- The second half of a request, once the counter of its kind has gone up: the
collect entry exists before `gst_element_add_pad` is asked, and stays when that
fails. `GstCollectPads` is taken to list a pad that is added, and to drop one that
is removed, at once, also while it is started. -/
def addRequestedPad (sink : GstKvsSink) (trackType : MkvTrackInfoType) (elementAddPad : Bool) :
    GstKvsSink × Option PadId :=
  let newpad := sink.nextPad
  let sink := { sink with
    data := { sink.data with
      mediaType := requestedMediaType sink.numVideoStreams sink.numAudioStreams }
    nextPad := sink.nextPad + 1
    collect := sink.collect ++
      [{ pad := newpad, eos := false, trackType, trackId := kvsSinkDefaultTrackId }] }
  if !elementAddPad then (sink, none)
  else ({ sink with pads := sink.pads ++ [newpad], numStreams := sink.numStreams + 1 }, some newpad)

/-- `gst_kvs_sink_request_new_pad`. -/
def gstKvsSinkRequestNewPad (sink : GstKvsSink) (templ : PadTemplate) (elementAddPad : Bool) :
    GstKvsSink × Option PadId :=
  match templ with
  | .audio =>
    if sink.numAudioStreams == 1 then (sink, none)
    else addRequestedPad { sink with numAudioStreams := sink.numAudioStreams + 1 } .audio elementAddPad
  | .video =>
    if sink.numVideoStreams == 1 then (sink, none)
    else addRequestedPad { sink with numVideoStreams := sink.numVideoStreams + 1 } .video elementAddPad
  | .other => (sink, none)

/-- One round of the walk over the collect list in `gst_kvs_sink_release_pad`. -/
def countReleasedPad (pad : PadId) (sink : GstKvsSink) (track : GstKvsSinkTrackData) : GstKvsSink :=
  if track.pad == pad then
    match track.trackType with
    | .video => { sink with numVideoStreams := sink.numVideoStreams - 1 }
    | .audio => { sink with numAudioStreams := sink.numAudioStreams - 1 }
  else sink

/-- `gst_kvs_sink_release_pad`. -/
def gstKvsSinkReleasePad (sink : GstKvsSink) (pad : PadId) (elementRemovePad : Bool) : GstKvsSink :=
  let sink := sink.collect.foldl (countReleasedPad pad) sink
  -- `gst_collect_pads_remove_pad`, taken to be done with the list when it returns
  let sink := { sink with collect := sink.collect.filter (·.pad != pad) }
  if elementRemovePad then
    { sink with pads := sink.pads.filter (· != pad), numStreams := sink.numStreams - 1 }
  else sink

end KvsProducer
