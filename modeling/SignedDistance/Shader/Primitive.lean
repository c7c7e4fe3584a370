import SignedDistance.Shader.Function

/-!
# Primitives for shaders

The primitives as functions of the shading language, in the order in which they stand in a shader.
-/

namespace SignedDistance.Shader

/-- The square of the length of a vector. -/
def dot2 : Function where
  name := "dot2"
  marked := true
  params := [⟨.vec 2, "v"⟩]
  body := [
    "  return dot(v, v);"]

/-- The arc of a rounded corner. -/
def cornerCircle : Function where
  name := "sdCornerCircle"
  marked := true
  params := [⟨.vec 2, "p"⟩]
  body := [
    "  return length(p - vec2(0.0, -1.0)) - sqrt(2.0);"]

/-- A box with its own radius at each corner. -/
def roundedBox : Function where
  name := "boxAtom"
  marked := true
  params := [⟨.vec 2, "p"⟩, ⟨.vec 2, "b"⟩, ⟨.vec 4, "r"⟩]
  body := [
    "  r.xy = (p.x > 0.0) ? r.xy : r.zw;",
    "  r.x  = (p.y > 0.0) ? r.x  : r.y;",
    "  vec2 q = abs(p) - b + r.x;",
    "  if(min(q.x, q.y) < 0.0) return max(q.x, q.y) - r.x;",
    "  vec2 uv = vec2(abs(q.x - q.y), q.x + q.y - r.x )/r.x;",
    "  float d = sdCornerCircle(uv);",
    "  return d * r.x * sqrt(0.5);"]

/-- A box with hardly rounded corners. -/
def plainBox : Function where
  name := "plainBox"
  marked := true
  params := [⟨.vec 2, "p"⟩, ⟨.vec 2, "b"⟩]
  body := [
    "  return boxAtom(p, b, vec4(0.01, 0.01, 0.01, 0.01));"]

/-- A circle around the origin. -/
def circle : Function where
  name := "circle"
  padded := true
  params := [⟨.vec 2, "p"⟩, ⟨.float, "r"⟩]
  body := [
    "  return length(p) - r;"]

/-- A heart. -/
def heart : Function where
  name := "heart"
  padded := true
  marked := true
  params := [⟨.vec 2, "p"⟩]
  body := [
    "  p.x = abs(p.x);",
    "  if( p.y+p.x>1.0 )",
    "    return sqrt(dot2(p-vec2(0.25,0.75))) - sqrt(2.0)/4.0;",
    "  return sqrt(min(dot2(p-vec2(0.00,1.00)),",
    "                  dot2(p-0.5*max(p.x+p.y,0.0)))) * sign(p.x-p.y);"]

/-- A crescent: a disc without a second disc. -/
def moon : Function where
  name := "moon"
  params := [⟨.vec 2, "p"⟩, ⟨.float, "d"⟩, ⟨.float, "ra"⟩, ⟨.float, "rb"⟩]
  body := [
    "  p.y = abs(p.y);",
    "  float a = (ra*ra - rb*rb + d*d)/(2.0*d);",
    "  float b = sqrt(max(ra*ra-a*a,0.0));",
    "  if( d*(p.x*b-p.y*a) > d*d*max(b-p.y,0.0) )",
    "    return length(p-vec2(a,b));",
    "  return max( (length(p          )-ra),",
    "             -(length(p-vec2(d,0))-rb));"]

/-- A star with five points. -/
def star : Function where
  name := "star"
  marked := true
  params := [⟨.vec 2, "p"⟩, ⟨.float, "r"⟩, ⟨.float, "rf"⟩]
  body := [
    "  const vec2 k1 = vec2(0.809016994375, -0.587785252292);",
    "  const vec2 k2 = vec2(-k1.x,k1.y);",
    "  p.x = abs(p.x);",
    "  p -= 2.0*max(dot(k1,p),0.0)*k1;",
    "  p -= 2.0*max(dot(k2,p),0.0)*k2;",
    "  p.x = abs(p.x);",
    "  p.y -= r;",
    "  vec2 ba = rf*vec2(-k1.y,k1.x) - vec2(0,1);",
    "  float h = clamp( dot(p,ba)/dot(ba,ba), 0.0, r );",
    "  return length(p-ba*h) * sign(p.y*ba.x-p.x*ba.y);"]

/-- A triangle with equal sides. -/
def triangle : Function where
  name := "triangle"
  padded := true
  marked := true
  params := [⟨.vec 2, "p"⟩, ⟨.float, "r"⟩]
  body := [
    "  const float k = sqrt(3.0);",
    "  p.x = abs(p.x) - r;",
    "  p.y = p.y + r/k;",
    "  if( p.x+k*p.y>0.0 ) p = vec2(p.x-k*p.y,-k*p.x-p.y)/2.0;",
    "  p.x -= clamp( p.x, -2.0*r, 0.0 );",
    "  return -length(p)*sign(p.y);"]

/-- The letter S drawn with straight strokes. -/
def pointedS : Function where
  name := "coolS"
  marked := true
  params := [⟨.vec 2, "p"⟩]
  body := [
    "  float six = (p.y < 0.0) ? -p.x : p.x;",
    "  p.x = abs(p.x);",
    "  p.y = abs(p.y) - 0.2;",
    "  float rex = p.x - min(round(p.x/0.4),0.4);",
    "  float aby = abs(p.y - 0.2) - 0.6;",
    "  float d = dot2(vec2(six,-p.y)-clamp(0.5*(six-p.y),0.0,0.2));",
    "  d = min(d,dot2(vec2(p.x,-aby)-clamp(0.5*(p.x-aby),0.0,0.4)));",
    "  d = min(d,dot2(vec2(rex,p.y  -clamp(p.y          ,0.0,0.4))));",
    "  float s = 2.0*p.x + aby + abs(aby+0.4) - 0.4;",
    "  return sqrt(d) * sign(s);"]

/-- An ellipse. -/
def ellipse : Function where
  name := "ellipse"
  marked := true
  params := [⟨.vec 2, "p"⟩, ⟨.vec 2, "ab"⟩]
  body := [
    "  p = abs(p); if( p.x > p.y ) \x7bp=p.yx;ab=ab.yx;\x7d",
    "  float l = ab.y*ab.y - ab.x*ab.x;",
    "  float m = ab.x*p.x/l;      float m2 = m*m;",
    "  float n = ab.y*p.y/l;      float n2 = n*n;",
    "  float c = (m2+n2-1.0)/3.0; float c3 = c*c*c;",
    "  float q = c3 + m2*n2*2.0;",
    "  float d = c3 + m2*n2;",
    "  float g = m + m*n2;",
    "  float co;",
    "  if( d<0.0 ) \x7b",
    "    float h = acos(q/c3)/3.0;",
    "    float s = cos(h);",
    "    float t = sin(h)*sqrt(3.0);",
    "    float rx = sqrt( -c*(s + t + 2.0) + m2 );",
    "    float ry = sqrt( -c*(s - t + 2.0) + m2 );",
    "    co = (ry+sign(l)*rx+abs(g)/(rx*ry)- m)/2.0;",
    "  \x7d else \x7b",
    "    float h = 2.0*m*n*sqrt( d );",
    "    float s = sign(q+h)*pow(abs(q+h), 1.0/3.0);",
    "    float u = sign(q-h)*pow(abs(q-h), 1.0/3.0);",
    "    float rx = -s - u - c*4.0 + 2.0*m2;",
    "    float ry = (s - u)*sqrt(3.0);",
    "    float rm = sqrt( rx*rx + ry*ry );",
    "    co = (ry/sqrt(rm-rx)+2.0*g/rm-m)/2.0;",
    "  \x7d",
    "  vec2 r = ab * vec2(co, sqrt(1.0-co*co));",
    "  return length(r-p) * sign(p.y-r.y);"]

/-- The primitives, each after the functions that it calls. -/
def primitiveFunctions : List Function :=
  [dot2, cornerCircle, roundedBox, plainBox, circle, heart,
    moon, star, triangle, pointedS, ellipse]

/-- The source of the primitives. -/
def primitiveSource : String :=
  sourceText primitiveFunctions

end SignedDistance.Shader
