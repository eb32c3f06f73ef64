/-!
What generated Android files import.
-/

namespace Widgetry.Android

def screenImports : List String :=
  ["android.content.Intent",
    "android.net.Uri",
    "androidx.compose.foundation.background",
    "androidx.compose.foundation.border",
    "androidx.compose.foundation.clickable",
    "androidx.compose.foundation.layout.*",
    "androidx.compose.foundation.lazy.LazyColumn",
    "androidx.compose.foundation.lazy.LazyRow",
    "androidx.compose.foundation.shape.RoundedCornerShape",
    "androidx.compose.material3.Button",
    "androidx.compose.material3.LinearProgressIndicator",
    "androidx.compose.material3.OutlinedButton",
    "androidx.compose.material3.Text",
    "androidx.compose.material3.TextButton",
    "androidx.compose.runtime.Composable",
    "androidx.compose.ui.Alignment",
    "androidx.compose.ui.Modifier",
    "androidx.compose.ui.draw.alpha",
    "androidx.compose.ui.draw.clip",
    "androidx.compose.ui.draw.shadow",
    "androidx.compose.ui.graphics.Color",
    "androidx.compose.ui.layout.ContentScale",
    "androidx.compose.ui.platform.LocalContext",
    "androidx.compose.ui.semantics.clearAndSetSemantics",
    "androidx.compose.ui.semantics.contentDescription",
    "androidx.compose.ui.semantics.semantics",
    "androidx.compose.ui.text.font.FontStyle",
    "androidx.compose.ui.text.font.FontWeight",
    "androidx.compose.ui.text.style.TextAlign",
    "androidx.compose.ui.unit.dp",
    "androidx.compose.ui.unit.sp",
    "androidx.compose.ui.zIndex",
    "coil.compose.AsyncImage"]

def glanceImports : List String :=
  ["android.content.Context",
    "androidx.compose.runtime.Composable",
    "androidx.compose.ui.graphics.Color",
    "androidx.compose.ui.unit.dp",
    "androidx.compose.ui.unit.sp",
    "androidx.glance.Button",
    "androidx.glance.GlanceId",
    "androidx.glance.GlanceModifier",
    "androidx.glance.Image",
    "androidx.glance.ImageProvider",
    "androidx.glance.action.actionStartActivity",
    "androidx.glance.action.clickable",
    "androidx.glance.appwidget.GlanceAppWidget",
    "androidx.glance.appwidget.GlanceAppWidgetReceiver",
    "androidx.glance.appwidget.LinearProgressIndicator",
    "androidx.glance.appwidget.action.actionRunCallback",
    "androidx.glance.appwidget.cornerRadius",
    "androidx.glance.appwidget.lazy.LazyColumn",
    "androidx.glance.appwidget.provideContent",
    "androidx.glance.background",
    "androidx.glance.layout.*",
    "androidx.glance.text.FontWeight",
    "androidx.glance.text.Text",
    "androidx.glance.text.TextAlign",
    "androidx.glance.text.TextStyle",
    "androidx.glance.unit.ColorProvider"]

/-- The imports of an activity also name the type of its dates. -/
def activityImports : List String := screenImports ++ ["java.time.Instant"]

end Widgetry.Android
