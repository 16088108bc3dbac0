import DreamJournal.Metric.Definition

/-!
# Standard metrics

The metrics that are known when nothing else is configured, in the order in which they are
listed.
-/
namespace DreamJournal.MetricDefinition

/-- A standard metric with values from `least` to `greatest`. -/
def rated (name : String) (least greatest : Int) (enabled : Bool) (description : String)
    (acceptable : Metric.IsAcceptable (Text.of name) (some (.whole least))
      (some (.whole greatest)) := by decide +kernel) : MetricDefinition where
  name := Text.of name
  minimum := some (.whole least)
  maximum := some (.whole greatest)
  enabled := enabled
  description := some (Text.of description)
  kind := .number
  acceptable := acceptable

/-- A standard metric whose values are texts. -/
def written (name description : String)
    (acceptable : Metric.IsAcceptable (Text.of name) none none := by decide +kernel) :
    MetricDefinition where
  name := Text.of name
  minimum := none
  maximum := none
  enabled := false
  description := some (Text.of description)
  kind := .text
  acceptable := acceptable

/-- The metrics of most dream journals. -/
def standard : List MetricDefinition :=
  [rated "Words" 0 1000 true "Number of words in the dream entry",
    rated "Reading Time" 0 60 true "Estimated reading time in minutes",
    rated "Sensory Detail" 1 5 true "Level of sensory information recalled from the dream",
    rated "Emotional Recall" 1 5 true "Level of emotional detail recalled from the dream",
    rated "Lost Segments" 0 5 true "Number of dream segments that feel missing or incomplete",
    rated "Descriptiveness" 1 5 true "Level of detail in the dream description",
    rated "Confidence Score" 1 5 true "Confidence level in the completeness of dream recall",
    rated "Characters Role" 1 5 true "Significance of familiar characters in the dream narrative",
    rated "Characters Count" 0 20 false "Total number of characters in the dream",
    rated "Familiar Count" 0 10 false "Number of familiar characters in the dream",
    rated "Unfamiliar Count" 0 10 false "Number of unfamiliar characters in the dream",
    written "Characters List" "List of characters that appeared in the dream",
    written "Dream Theme" "Main themes or motifs in the dream",
    rated "Lucidity Level" 1 5 false
      "Degree of awareness that you were dreaming while in the dream",
    rated "Dream Coherence" 1 5 false "How logical and consistent the dream narrative was",
    rated "Setting Familiarity" 1 5 false
      "How familiar the dream locations were compared to waking life",
    rated "Ease of Recall" 1 5 false "How easily you could remember the dream upon waking",
    rated "Recall Stability" 1 5 false
      "How well your memory of the dream held up after waking"]

end DreamJournal.MetricDefinition
