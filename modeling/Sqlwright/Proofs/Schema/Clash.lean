import Sqlwright.Proofs.Schema.Obstacle

/-! Default dates and times against the types of their columns. A type without a layout takes any
of them, and a date with a time has every part that a layout names; only a date alone and a time
alone can clash with the type. -/
namespace Sqlwright

def ColumnKind.layout? : ColumnKind → Option Layout
  | .date => some .date
  | .dateTime => some .dateTime
  | .time => some .time
  | _ => none

theorem Column.nativeLayout (column : Column) : column.nativeType.layout? = column.kind.layout? := by
  unfold nativeType
  cases column.kind <;> rfl

def Value.clashes : Value → ColumnKind → Bool
  | .date _, .dateTime | .date _, .time => true
  | .time _, .date | .time _, .dateTime => true
  | _, _ => false

namespace Column

theorem momentUnstopped {layout : Layout} {moment : Moment}
    (fits : ∀ item ∈ layout, item.Fits moment) (value : Value) :
    (momentSketch layout moment value).obstacle? = none := by
  rw [momentSketch, Moment.formatText fits]
  rfl

theorem defaultUnstopped {kind : ColumnKind} {value : Value} (suits : value.clashes kind = false) :
    (defaultSketch kind.layout? value).obstacle? = none := by
  cases value with
  | date d =>
    refine momentUnstopped ?_ _
    cases kind <;> first | exact Layout.dateFits d | cases suits
  | time t =>
    refine momentUnstopped ?_ _
    cases kind <;> first | exact Layout.timeFits t | cases suits
  | dateTime dt =>
    refine momentUnstopped ?_ _
    have whole := Layout.dateTimeFits dt
    have parts : Layout.date ⊆ Layout.dateTime ∧ Layout.time ⊆ Layout.dateTime := by decide
    cases kind with
    | date => exact fun item member => whole item (parts.1 member)
    | time => exact fun item member => whole item (parts.2 member)
    | _ => exact whole
  | offsetDateTime dt =>
    refine momentUnstopped ?_ _
    have whole := Layout.offsetDateTimeFits dt
    have parts : Layout.date ⊆ Layout.offsetDateTime ∧ Layout.time ⊆ Layout.offsetDateTime ∧
        Layout.dateTime ⊆ Layout.offsetDateTime := by decide
    cases kind with
    | date => exact fun item member => whole item (parts.1 member)
    | time => exact fun item member => whole item (parts.2.1 member)
    | _ => exact fun item member => whole item (parts.2.2 member)
  | _ => exact obstacleDefault _ rfl

theorem momentStopped {layout : Layout} {moment : Moment} {item : LayoutItem}
    (unfit : ¬ item.Fits moment) (named : item ∈ layout) (value : Value) :
    (momentSketch layout moment value).obstacle? = some (.unprintable value layout) := by
  have unwritten : layout.write? moment = none :=
    Option.not_isSome_iff_eq_none.mp fun written => unfit (Layout.writeSome.mp written item named)
  rw [momentSketch, Layout.format?, unwritten]
  rfl

theorem defaultStopped {kind : ColumnKind} {value : Value} (clashes : value.clashes kind = true) :
    ∃ layout, (defaultSketch kind.layout? value).obstacle? =
      some (.unprintable value layout) := by
  cases value with
  | date d =>
    have noHour : ¬ LayoutItem.hour.Fits d.moment := by simp [LayoutItem.Fits, Date.moment]
    cases kind with
    | dateTime => exact ⟨_, momentStopped noHour (by decide) _⟩
    | time => exact ⟨_, momentStopped noHour (by decide) _⟩
    | _ => cases clashes
  | time t =>
    have noYear : ¬ LayoutItem.year.Fits t.moment := by simp [LayoutItem.Fits, Time.moment]
    cases kind with
    | date => exact ⟨_, momentStopped noYear (by decide) _⟩
    | dateTime => exact ⟨_, momentStopped noYear (by decide) _⟩
    | _ => cases clashes
  | _ => cases clashes

def Clashes (column : Column) : Prop :=
  ∃ value ∈ column.default?, value.clashes column.kind = true

instance (column : Column) : Decidable column.Clashes :=
  inferInstanceAs (Decidable (∃ value ∈ column.default?, value.clashes column.kind = true))

theorem nativeUnstopped {column : Column} (suits : ¬ column.Clashes) :
    (column.sketch nativeType).obstacle? = none := by
  rw [obstacleOfDefault, Option.bind_eq_none_iff]
  intro value default
  rw [nativeLayout]
  exact defaultUnstopped (Bool.eq_false_iff.mpr fun clashes => suits ⟨value, default, clashes⟩)

theorem nativeStopped {column : Column} (clashes : column.Clashes) :
    ∃ value layout, (column.sketch nativeType).obstacle? = some (.unprintable value layout) := by
  obtain ⟨value, default, clash⟩ := clashes
  obtain ⟨layout, stopped⟩ := defaultStopped clash
  refine ⟨value, layout, ?_⟩
  rw [obstacleOfDefault, Option.mem_def.mp default, Option.bind_some, nativeLayout]
  exact stopped

end Column

end Sqlwright
