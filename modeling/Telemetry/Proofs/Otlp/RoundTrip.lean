import Telemetry.Otlp.Decoding
import Telemetry.Otlp.Encoding
import Telemetry.Proofs.Wire.Members

/-!
# An export read back

Every message is read back from its fields, member by member, and so a request from its bytes
(`ExportRequest.decode?_encode`). The one thing that proto3 does not tell is the sign of a zero in a plain double, of
which the summary points have three: `positiveZeros` is what remains of a message.
-/

namespace Telemetry.Otlp
open Wire

/-! ## What a summary keeps -/

def QuantileValue.positiveZeros (q : QuantileValue) : QuantileValue := ⟨positiveZero q.quantile, positiveZero q.value⟩

def SummaryPoint.positiveZeros (p : SummaryPoint) : SummaryPoint :=
  { p with sum := positiveZero p.sum, quantiles := p.quantiles.map QuantileValue.positiveZeros }

def Data.positiveZeros : Data → Data
  | summary points => summary (points.map SummaryPoint.positiveZeros)
  | data => data

def Metric.positiveZeros (m : Metric) : Metric := { m with data := m.data.positiveZeros }

def ScopeMetrics.positiveZeros (s : ScopeMetrics) : ScopeMetrics :=
  { s with metrics := s.metrics.map Metric.positiveZeros }

def ResourceMetrics.positiveZeros (r : ResourceMetrics) : ResourceMetrics :=
  { r with scopes := r.scopes.map ScopeMetrics.positiveZeros }

/-- The request with `0` for every `-0` among the sums, quantiles and quantile values of its summary points. -/
def ExportRequest.positiveZeros (r : ExportRequest) : ExportRequest :=
  ⟨r.resources.map ResourceMetrics.positiveZeros⟩

/-! ## Attributes and exemplars -/

theorem Attribute.proper_fields (a : Attribute) : ∀ f ∈ a.fields, f.Proper :=
  proper_of_select (by simp [fields, outOfRange])

theorem Attribute.ofFields?_fields (a : Attribute) : ofFields? a.fields = some a := by
  have hkey : textAt? 1 a.fields = some a.key := textAt?_eq (by simp [payloads_eq, fields])
  have hmessage : messageAt? 2 a.fields = some (presentText 1 a.value) :=
    messageAt?_eq (proper_of_select (by simp [outOfRange])) (by simp [payloads_eq, fields])
  have hvalue : presentTextAt? 1 (presentText 1 a.value) = some a.value := presentTextAt?_eq rfl
  simp [ofFields?, hkey, hmessage, hvalue]

theorem Exemplar.proper_fields (e : Exemplar) : ∀ f ∈ e.fields, f.Proper :=
  proper_of_select (by simp [fields, outOfRange])

theorem Exemplar.ofFields?_fields (e : Exemplar) : ofFields? e.fields = some e := by
  have hattributes : messagesAt? 7 e.fields Attribute.ofFields? = some e.attributes :=
    messagesAt?_eq_items Attribute.proper_fields Attribute.ofFields?_fields (by simp [payloads_eq, fields])
  have htime : wordAt? 2 e.fields = some e.time := wordAt?_eq (by simp [payloads_eq, fields])
  have hspan : bytesAt? 4 e.fields = some e.spanId := bytesAt?_eq (by simp [payloads_eq, fields])
  have htrace : bytesAt? 5 e.fields = some e.traceId := bytesAt?_eq (by simp [payloads_eq, fields])
  have hvalue : presentDoubleAt? 3 e.fields = some e.value := presentDoubleAt?_eq (by simp [payloads_eq, fields])
  simp [ofFields?, hattributes, htime, hspan, htrace, hvalue]

/-! ## Points -/

theorem NumberPoint.proper_fields (p : NumberPoint) : ∀ f ∈ p.fields, f.Proper :=
  proper_of_select (by simp [fields, outOfRange])

theorem NumberPoint.ofFields?_fields (p : NumberPoint) : ofFields? p.fields = some p := by
  have hattributes : messagesAt? 7 p.fields Attribute.ofFields? = some p.attributes :=
    messagesAt?_eq_items Attribute.proper_fields Attribute.ofFields?_fields (by simp [payloads_eq, fields])
  have hstart : wordAt? 2 p.fields = some p.start := wordAt?_eq (by simp [payloads_eq, fields])
  have htime : wordAt? 3 p.fields = some p.time := wordAt?_eq (by simp [payloads_eq, fields])
  have hvalue : presentDoubleAt? 4 p.fields = some p.value := presentDoubleAt?_eq (by simp [payloads_eq, fields])
  have hexemplars : messagesAt? 5 p.fields Exemplar.ofFields? = some p.exemplars :=
    messagesAt?_eq_items Exemplar.proper_fields Exemplar.ofFields?_fields (by simp [payloads_eq, fields])
  have hflags : intAt? 8 p.fields = some p.flags.toUInt64 := intAt?_eq (by simp [payloads_eq, fields])
  simp [ofFields?, hattributes, hstart, htime, hvalue, hexemplars, hflags]

theorem HistogramPoint.proper_fields (p : HistogramPoint) : ∀ f ∈ p.fields, f.Proper :=
  proper_of_select (by simp [fields, outOfRange])

theorem HistogramPoint.ofFields?_fields (p : HistogramPoint) : ofFields? p.fields = some p := by
  have hattributes : messagesAt? 9 p.fields Attribute.ofFields? = some p.attributes :=
    messagesAt?_eq_items Attribute.proper_fields Attribute.ofFields?_fields (by simp [payloads_eq, fields])
  have hstart : wordAt? 2 p.fields = some p.start := wordAt?_eq (by simp [payloads_eq, fields])
  have htime : wordAt? 3 p.fields = some p.time := wordAt?_eq (by simp [payloads_eq, fields])
  have hcount : wordAt? 4 p.fields = some p.count := wordAt?_eq (by simp [payloads_eq, fields])
  have hsum : optionalDoubleAt? 5 p.fields = some p.sum := optionalDoubleAt?_eq (by simp [payloads_eq, fields])
  have hcounts : wordsAt? 6 p.fields = some p.bucketCounts := wordsAt?_eq (by simp [payloads_eq, fields])
  have hbounds : wordsAt? 7 p.fields = some (p.explicitBounds.map Binary64.bits) :=
    wordsAt?_eq (by simp [payloads_eq, fields])
  have hmk : p.explicitBounds.map (Binary64.mk ∘ Binary64.bits) = p.explicitBounds := List.map_id _
  have hexemplars : messagesAt? 8 p.fields Exemplar.ofFields? = some p.exemplars :=
    messagesAt?_eq_items Exemplar.proper_fields Exemplar.ofFields?_fields (by simp [payloads_eq, fields])
  have hflags : intAt? 10 p.fields = some p.flags.toUInt64 := intAt?_eq (by simp [payloads_eq, fields])
  simp [ofFields?, hattributes, hstart, htime, hcount, hsum, hcounts, hbounds, hmk, hexemplars, hflags]

theorem QuantileValue.proper_fields (q : QuantileValue) : ∀ f ∈ q.fields, f.Proper :=
  proper_of_select (by simp [fields, outOfRange])

theorem QuantileValue.ofFields?_fields (q : QuantileValue) : ofFields? q.fields = some q.positiveZeros := by
  have hquantile : doubleAt? 1 q.fields = some (positiveZero q.quantile) := doubleAt?_eq (by simp [payloads_eq, fields])
  have hvalue : doubleAt? 2 q.fields = some (positiveZero q.value) := doubleAt?_eq (by simp [payloads_eq, fields])
  simp [ofFields?, positiveZeros, hquantile, hvalue]

theorem SummaryPoint.proper_fields (p : SummaryPoint) : ∀ f ∈ p.fields, f.Proper :=
  proper_of_select (by simp [fields, outOfRange])

theorem SummaryPoint.ofFields?_fields (p : SummaryPoint) : ofFields? p.fields = some p.positiveZeros := by
  have hattributes : messagesAt? 7 p.fields Attribute.ofFields? = some p.attributes :=
    messagesAt?_eq_items Attribute.proper_fields Attribute.ofFields?_fields (by simp [payloads_eq, fields])
  have hstart : wordAt? 2 p.fields = some p.start := wordAt?_eq (by simp [payloads_eq, fields])
  have htime : wordAt? 3 p.fields = some p.time := wordAt?_eq (by simp [payloads_eq, fields])
  have hcount : wordAt? 4 p.fields = some p.count := wordAt?_eq (by simp [payloads_eq, fields])
  have hsum : doubleAt? 5 p.fields = some (positiveZero p.sum) := doubleAt?_eq (by simp [payloads_eq, fields])
  have hquantiles : messagesAt? 6 p.fields QuantileValue.ofFields? =
      some (p.quantiles.map QuantileValue.positiveZeros) :=
    messagesAt?_eq QuantileValue.proper_fields QuantileValue.ofFields?_fields (by simp [payloads_eq, fields])
  have hflags : intAt? 8 p.fields = some p.flags.toUInt64 := intAt?_eq (by simp [payloads_eq, fields])
  simp [ofFields?, positiveZeros, hattributes, hstart, htime, hcount, hsum, hquantiles, hflags]

/-! ## Metrics -/

theorem Temporality.ofCode?_code (t : Temporality) : ofCode? (UInt64.ofNat t.code).toNat = some t := by
  cases t <;> rfl

theorem Data.proper_fields (d : Data) : ∀ f ∈ d.fields, f.Proper := by
  cases d <;> exact proper_of_select (by simp [fields, outOfRange])

theorem Data.select_fields {p : Nat → Bool} (h : [5, 7, 9, 11].all fun n => !p n) (d : Data) :
    select p d.fields = [] := by
  simp at h
  cases d <;> simp [fields, h]

/-- Where the points of a metric stand among its fields, they are read back. -/
theorem Data.ofFields?_eq {d : Data} {fields : List Field}
    (h : select (fun m => [5, 7, 9, 11].contains m) fields = d.fields) : ofFields? fields = some d.positiveZeros := by
  cases d with
  | gauge points =>
    have hchosen := chosenAt?_eq (proper_of_select (by simp [outOfRange])) h
    have hpoints : messagesAt? 1 (messages 1 points NumberPoint.fields) NumberPoint.ofFields? = some points :=
      messagesAt?_eq_items NumberPoint.proper_fields NumberPoint.ofFields?_fields rfl
    simp [ofFields?, hchosen, hpoints, positiveZeros]
  | sum points temporality monotonic =>
    have hproper : ∀ f ∈ messages 1 points NumberPoint.fields ++ plainInt 2 (UInt64.ofNat temporality.code)
        ++ plainInt 3 (if monotonic then 1 else 0), f.Proper := proper_of_select (by simp [outOfRange])
    have hchosen := chosenAt?_eq hproper h
    generalize hcontent : messages 1 points NumberPoint.fields ++ plainInt 2 (UInt64.ofNat temporality.code)
      ++ plainInt 3 (if monotonic then 1 else 0) = content at hchosen
    have hpoints : messagesAt? 1 content NumberPoint.ofFields? = some points :=
      messagesAt?_eq_items NumberPoint.proper_fields NumberPoint.ofFields?_fields (by simp [← hcontent, payloads_eq])
    have htemporality : intAt? 2 content = some (UInt64.ofNat temporality.code) :=
      intAt?_eq (by simp [← hcontent, payloads_eq])
    have hmonotonic : intAt? 3 content = some (if monotonic then 1 else 0) :=
      intAt?_eq (by simp [← hcontent, payloads_eq])
    have hflag : decide ((if monotonic then (1 : UInt64) else 0) ≠ 0) = monotonic := by cases monotonic <;> rfl
    simp only [ofFields?, hchosen, hpoints, htemporality, hmonotonic, positiveZeros, Option.bind_eq_bind,
      Option.bind_some, Temporality.ofCode?_code, hflag, Option.pure_def]
  | histogram points temporality =>
    have hproper : ∀ f ∈ messages 1 points HistogramPoint.fields ++ plainInt 2 (UInt64.ofNat temporality.code),
        f.Proper := proper_of_select (by simp [outOfRange])
    have hchosen := chosenAt?_eq hproper h
    generalize hcontent : messages 1 points HistogramPoint.fields ++ plainInt 2 (UInt64.ofNat temporality.code)
      = content at hchosen
    have hpoints : messagesAt? 1 content HistogramPoint.ofFields? = some points :=
      messagesAt?_eq_items HistogramPoint.proper_fields HistogramPoint.ofFields?_fields
        (by simp [← hcontent, payloads_eq])
    have htemporality : intAt? 2 content = some (UInt64.ofNat temporality.code) :=
      intAt?_eq (by simp [← hcontent, payloads_eq])
    simp only [ofFields?, hchosen, hpoints, htemporality, positiveZeros, Option.bind_eq_bind, Option.bind_some,
      Temporality.ofCode?_code, Option.pure_def]
  | summary points =>
    have hchosen := chosenAt?_eq (proper_of_select (by simp [outOfRange])) h
    have hpoints : messagesAt? 1 (messages 1 points SummaryPoint.fields) SummaryPoint.ofFields? =
        some (points.map SummaryPoint.positiveZeros) :=
      messagesAt?_eq SummaryPoint.proper_fields SummaryPoint.ofFields?_fields rfl
    simp [ofFields?, hchosen, hpoints, positiveZeros]

theorem Metric.proper_fields (m : Metric) : ∀ f ∈ m.fields, f.Proper :=
  proper_of_select (by simp [fields, outOfRange, Data.select_fields])

theorem Metric.ofFields?_fields (m : Metric) : ofFields? m.fields = some m.positiveZeros := by
  have hname : textAt? 1 m.fields = some m.name := textAt?_eq (by simp [payloads_eq, fields, Data.select_fields])
  have hdescription : textAt? 2 m.fields = some m.description :=
    textAt?_eq (by simp [payloads_eq, fields, Data.select_fields])
  have hunit : textAt? 3 m.fields = some m.unit := textAt?_eq (by simp [payloads_eq, fields, Data.select_fields])
  have hall : select (fun n => [5, 7, 9, 11].contains n) m.data.fields = m.data.fields := by
    cases m.data <;> rfl
  have hdata : Data.ofFields? m.fields = some m.data.positiveZeros := by
    refine Data.ofFields?_eq ?_
    rw [fields, select_append, select_append, select_append, select_append, select_plainText rfl, select_plainText rfl,
      select_plainText rfl, select_messages rfl, hall]
    simp
  have hmetadata : messagesAt? 12 m.fields Attribute.ofFields? = some m.metadata :=
    messagesAt?_eq_items Attribute.proper_fields Attribute.ofFields?_fields
      (by simp [payloads_eq, fields, Data.select_fields])
  simp [ofFields?, positiveZeros, hname, hdescription, hunit, hdata, hmetadata]

/-! ## Requests -/

theorem Scope.proper_fields (s : Scope) : ∀ f ∈ s.fields, f.Proper :=
  proper_of_select (by simp [fields, outOfRange])

theorem Scope.ofFields?_fields (s : Scope) : ofFields? s.fields = some s := by
  have hname : textAt? 1 s.fields = some s.name := textAt?_eq (by simp [payloads_eq, fields])
  have hversion : textAt? 2 s.fields = some s.version := textAt?_eq (by simp [payloads_eq, fields])
  simp [ofFields?, hname, hversion]

theorem ScopeMetrics.proper_fields (s : ScopeMetrics) : ∀ f ∈ s.fields, f.Proper :=
  proper_of_select (by simp [fields, outOfRange])

theorem ScopeMetrics.ofFields?_fields (s : ScopeMetrics) : ofFields? s.fields = some s.positiveZeros := by
  have hscope : messageAt? 1 s.fields = some s.scope.fields :=
    messageAt?_eq s.scope.proper_fields (by simp [payloads_eq, fields])
  have hmetrics : messagesAt? 2 s.fields Metric.ofFields? = some (s.metrics.map Metric.positiveZeros) :=
    messagesAt?_eq Metric.proper_fields Metric.ofFields?_fields (by simp [payloads_eq, fields])
  simp [ofFields?, positiveZeros, hscope, s.scope.ofFields?_fields, hmetrics]

theorem ResourceMetrics.proper_fields (r : ResourceMetrics) : ∀ f ∈ r.fields, f.Proper :=
  proper_of_select (by simp [fields, outOfRange])

theorem ResourceMetrics.ofFields?_fields (r : ResourceMetrics) : ofFields? r.fields = some r.positiveZeros := by
  have hresource : messageAt? 1 r.fields = some (messages 1 r.resource Attribute.fields) :=
    messageAt?_eq (proper_of_select (by simp [outOfRange])) (by simp [payloads_eq, fields])
  have hattributes : messagesAt? 1 (messages 1 r.resource Attribute.fields) Attribute.ofFields? = some r.resource :=
    messagesAt?_eq_items Attribute.proper_fields Attribute.ofFields?_fields rfl
  have hscopes : messagesAt? 2 r.fields ScopeMetrics.ofFields? = some (r.scopes.map ScopeMetrics.positiveZeros) :=
    messagesAt?_eq ScopeMetrics.proper_fields ScopeMetrics.ofFields?_fields (by simp [payloads_eq, fields])
  simp [ofFields?, positiveZeros, hresource, hattributes, hscopes]

theorem ExportRequest.decode?_encode (r : ExportRequest) : decode? r.encode = some r.positiveZeros := by
  have hproper : ∀ f ∈ r.fields, f.Proper := proper_of_select (by simp [fields, outOfRange])
  have hresources : messagesAt? 1 r.fields ResourceMetrics.ofFields? =
      some (r.resources.map ResourceMetrics.positiveZeros) :=
    messagesAt?_eq ResourceMetrics.proper_fields ResourceMetrics.ofFields?_fields rfl
  rw [decode?, encode, Wire.decode?_encode hproper, Option.bind_some]
  simp [ofFields?, positiveZeros, hresources]

/-- **The bytes of an export lose nothing** but the sign of zeros in summary points. -/
theorem decode?_exportRequest (target : Target) (records : List Record) :
    ExportRequest.decode? (exportRequest target records).encode = some (exportRequest target records).positiveZeros :=
  (exportRequest target records).decode?_encode

end Telemetry.Otlp
