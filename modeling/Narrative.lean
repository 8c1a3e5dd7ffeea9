import Narrative.Main
import Narrative.Proofs.App.Faithful
import Narrative.Proofs.App.FocusTrace
import Narrative.Proofs.App.Foreseen
import Narrative.Proofs.App.Menus
import Narrative.Proofs.App.Scripts
import Narrative.Proofs.Console
import Narrative.Proofs.Console.Waiting
import Narrative.Proofs.Engine.Choices
import Narrative.Proofs.Engine.Idle
import Narrative.Proofs.Engine.Journal
import Narrative.Proofs.Engine.Legible
import Narrative.Proofs.Engine.Limits
import Narrative.Proofs.Engine.Moves
import Narrative.Proofs.Engine.Options
import Narrative.Proofs.Engine.Silence
import Narrative.Proofs.Engine.Tags
import Narrative.Proofs.Impact.Grammar
import Narrative.Proofs.Markup.Order
import Narrative.Proofs.Markup.Pace
import Narrative.Proofs.Markup.Search
import Narrative.Proofs.Markup.Template
import Narrative.Proofs.Passage.Lead
import Narrative.Proofs.Passage.Meaning
import Narrative.Proofs.Requirement.Brackets
import Narrative.Proofs.Requirement.Lexing
import Narrative.Proofs.Requirement.Questions
import Narrative.Proofs.Session.Loading
import Narrative.Proofs.Session.Refresh
import Narrative.Proofs.Session.StoryErrors
import Narrative.Proofs.Switchboard.Delivery
import Narrative.Proofs.Switchboard.Moments
import Narrative.Proofs.Tag.Listing
import Narrative.Proofs.Tag.Operations
import Narrative.Proofs.World.Cells
import Narrative.Proofs.World.Combinations
import Narrative.Proofs.World.Walk
