import Lifelines.Main
import Lifelines.Proofs.Call
import Lifelines.Proofs.Lifecycle
import Lifelines.Proofs.PicLines
import Lifelines.Proofs.SettingsFile
import Lifelines.Proofs.Style
import Lifelines.Proofs.Matching
import Lifelines.Proofs.Persistence
import Lifelines.Proofs.Opacity
import Lifelines.Proofs.Interleaving
import Lifelines.Proofs.Layering
import Lifelines.Proofs.Retaining
import Lifelines.Proofs.Scratch
import Lifelines.Proofs.FailedRuns
import Lifelines.Proofs.UserSettings
import Lifelines.Proofs.EffectiveSettings
import Lifelines.Proofs.Refusal
import Lifelines.Proofs.Exchange
import Lifelines.Proofs.Finish
import Lifelines.Proofs.ParamWrites
import Lifelines.Proofs.MemberOrder
import Lifelines.Proofs.Spelling
import Lifelines.Proofs.Reformatting
import Lifelines.Proofs.CommentText
import Lifelines.Proofs.Rendering
